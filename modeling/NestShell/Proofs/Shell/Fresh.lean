import NestShell.Commands.Meaning

/-!
# A shell before its first line
-/

namespace NestShell.Shell

open NestShell.Code

variable (m : Machine) (names : List (String × Value)) (lines : List String)

/-- The scope of a top-level session with some names, and the machine on which it was made. -/
def topScope : Scope × Machine :=
  match Scope.top names m with
  | .ok scope m => (scope, m)
  | .error _ m => ({ receiver := .none, globals := 0, locals := 0, toplevel := true }, m)

/-- A shell with the built-in commands that has read none of its lines. -/
def freshOn : State where
  stack := Stack.start (topScope m names).1 "main"
  desk := {
    machine := (topScope m names).2
    registry := Commands.registry
    attached := true
    source := { inputs := lines.map .line } }

/-- The same where no object has been made. -/
def fresh : State := freshOn {} [] lines

/-- A shell that has read no line: only the lowest session is open, and nothing waits. -/
structure Fresh (s : State) : Prop where
  journal : s.stack.journal = []
  nested : s.stack.nested = []
  level : s.stack.base.level = 0
  pending : s.desk.pending = []
  continuation : s.desk.continuation = []
  goesOn : s.desk.exhausted = false

theorem freshOn_unread : Fresh (freshOn m names lines) := ⟨rfl, rfl, rfl, rfl, rfl, rfl⟩

theorem freshOn_commands :
    (freshOn m names lines).desk.registry.commands = Commands.registry.commands := rfl

theorem fresh_unread : Fresh (fresh lines) := freshOn_unread {} [] lines

theorem fresh_commands : (fresh lines).desk.registry.commands = Commands.registry.commands :=
  freshOn_commands {} [] lines

theorem Fresh.sessions {s : State} (h : Fresh s) : s.stack.sessions = [s.stack.base] :=
  congrArg (List.cons _) h.nested

end NestShell.Shell

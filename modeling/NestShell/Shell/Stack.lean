import NestShell.Shell.Journal
/-!
The sessions that are open, each on top of the one it was started in. The lowest one is always
there. Every session has a number of its own, which no later session of the stack gets again. The
journal only ever grows, and nothing looks into it.
-/
namespace NestShell.Shell

open NestShell.Code

structure Stack where
  base : Session
  /-- The sessions above the lowest one, from below. -/
  nested : List Session := []
  nextId : Nat
  /-- What has happened, the earliest first. -/
  journal : List Entry := []

/-- A level that no session has. -/
structure InvalidLevel where
  level : Value
  depth : Nat

namespace Stack

/-- The stack of one session. -/
def start (scope : Scope) (label : String) : Stack where
  base := ⟨0, 0, scope.receiver, scope, label⟩
  nextId := 1

def sessions (s : Stack) : List Session := s.base :: s.nested

/-- The level of the top session. -/
def depth (s : Stack) : Nat := s.nested.length

def top (s : Stack) : Session := s.nested.getLastD s.base

/-- The session that a push puts on the stack. -/
def next (s : Stack) (receiver : Value) (scope : Scope) (label : String) : Session :=
  ⟨s.nextId, s.depth + 1, receiver, scope, label⟩

def push (s : Stack) (receiver : Value) (scope : Scope) (label : String) : Stack :=
  { s with nested := s.nested ++ [s.next receiver scope label], nextId := s.nextId + 1 }

def note (s : Stack) (session : Session) (event : Event) (waiting : Nat) : Stack :=
  { s with journal := s.journal ++ [⟨session, event, s.sessions, waiting⟩] }

/-- Whether a session is on the stack. -/
def contains (s : Stack) (f : Session) : Bool :=
  (s.sessions[f.level]?.map (·.id)) == some f.id

/-- Keeps the sessions up to a level. -/
def cutAbove (s : Stack) (level : Nat) : Stack := { s with nested := s.nested.take level }

/-- Drops a session and those above it, if it is on the stack and not the lowest one. -/
def release (s : Stack) (f : Session) : Stack :=
  if f.level == 0 || !s.contains f then s else s.cutAbove (f.level - 1)

/-- The number that a level is; truth values count as numbers. -/
def levelOf? : Value → Option Int
  | .int n => some n
  | .bool b => some (if b then 1 else 0)
  | _ => none

/-- The session level that a value names. -/
def validate (s : Stack) (level : Value) : Except InvalidLevel Nat :=
  match levelOf? level with
  | some n => if 0 ≤ n && n ≤ s.depth then .ok n.toNat else .error ⟨level, s.depth⟩
  | none => .error ⟨level, s.depth⟩

/-- Leaves the sessions above a level. -/
def breakout (s : Stack) (level : Value) : Except InvalidLevel Stack := do
  return s.cutAbove (← s.validate level)

end Stack

/-- The report of a level that no session has. -/
def InvalidLevel.message (shownLevel : String) (f : InvalidLevel) : String :=
  (if f.depth > 0 then
    "Invalid nest level. Must be between 0 and " ++ toString f.depth ++ "."
  else "Invalid nest level. Only level 0 is active.") ++ " Got " ++ shownLevel ++ "."

end NestShell.Shell

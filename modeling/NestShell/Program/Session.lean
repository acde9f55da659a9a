import NestShell.Commands.Meaning
/-!
Opening shells: on an object, at top level, or in code that is being run. The desk outlives the
shell, so that what was printed and what was asked of the world outside can be seen afterwards.
-/
namespace NestShell.Program

open NestShell.Code NestShell.Shell NestShell.Files DeskM

variable {α : Type}

/-- Runs a shell whose lowest session evaluates in a scope. -/
def inShell (scope : Scope) (p : ShellM α) : DeskM α := fun d =>
  match Shell.create scope { d with attached := true } with
  | .error stop => .error stop d
  | .ok s =>
    match p s with
    | .ok a s => .ok a s.desk
    | .error stop s => .error stop s.desk

/-- The scope of a session on an object, or at top level. -/
def scopeOn (receiver : Value) : Run Scope := do
  let top ← Scope.top []
  if receiver.isNone then return top else top.child receiver

/-- Runs a session in a scope and gives the value that it ended with. -/
def sessionIn (scope : Scope) : DeskM Value := inShell scope Shell.run

def raiseHistoryFault (f : History.Fault) : DeskM α :=
  match f with
  | .unknownHome => raise "RuntimeError" f.message
  | .nullByte => raise "ValueError" f.message

/-- Raises the exception for a file that cannot be read. -/
def raiseUnreadable (f : ReadFault) : DeskM α :=
  match f with
  | .failure g => raise ((systemErrors.lookup (g.fault.number : Int)).getD "OSError") f.message
  | .undecodable _ => raise "UnicodeDecodeError" f.message
  | .nullByte => raise "ValueError" f.message

/-- Opens the history of a file. -/
def openHistory (path : Option String) (limit : Int) : DeskM Unit := do
  let d ← get
  match History.openAt d.files d.homes path limit with
  | .ok h => set { d with history := some h }
  | .error f => raiseHistoryFault f

/-- The path that a variable of the environment names, or else that of a file in a directory. -/
def pathFrom (d : Desk) (name home file : String) : Except History.Fault String :=
  match Command.given? (d.environment? name) with
  | none => .ok (Path.plain (Path.join home file))
  | some path =>
    match Path.expandPlain? d.homes path with
    | some full => .ok full
    | none => .error .unknownHome

/-- Where the history is kept, for a program that was started with a home directory. -/
def historyPath (d : Desk) (home : String) : Except History.Fault String :=
  pathFrom d "BURROW_HISTORY" home ".burrow_history"

def defaultLimit : Int := 1000

/-- Opens the history that is kept where nobody says otherwise. -/
def openDefaultHistory (home : String) : DeskM Unit := do
  match historyPath (← get) home with
  | .ok path => openHistory (some path) defaultLimit
  | .error f => raiseHistoryFault f

end NestShell.Program

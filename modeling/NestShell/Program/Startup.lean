import NestShell.Program.Arguments
import NestShell.Program.Session
/-!
Running the program: one line and its status, or the startup script and then a session. The script
is handled line by line, whatever its lines lead to; blank lines and comments are skipped where no
text is open.
-/
namespace NestShell.Program

open NestShell.Code NestShell.Text NestShell.Shell NestShell.Files

/-- The settings that stand where the arguments say nothing, for a program that was started with a
home directory. -/
def defaultSettings (d : Desk) (home : String) : Except History.Fault Settings := do
  let historyFile ← historyPath d home
  let startupFile ← pathFrom d "BURROW_RC" home ".burrowrc"
  return {
    logLevel := (d.environment? "BURROW_LOG").getD "WARNING"
    historyFile := historyFile
    historyLimit := defaultLimit
    startupFile := startupFile }

/-- The least weight of the messages that are logged. -/
def logWeight (level : String) : Nat :=
  match upper level with
  | "CRITICAL" | "FATAL" => 50
  | "ERROR" => 40
  | "INFO" => 20
  | "DEBUG" => 10
  | "NOTSET" => 0
  | _ => 30

def Settings.arrange (s : Settings) (d : Desk) : Desk :=
  { d with
    registry := Commands.registry
    color := !s.noColor
    pager := !s.noPager
    evalUnmatched := !s.strictCommands
    promptStyle := if s.simplePrompt then .simple else .standard }

/-! ## The startup script -/

/-- Whether a line of the script does nothing by itself. -/
def isIdle (line : String) : Bool := isAllBlank line || startsWith (trimStart line) "#"

/-- Handles lines one after another; gives the last failure's status. -/
def runScript (status : Nat) : List String → ShellM Nat
  | [] => do
    ShellM.modifyDesk fun d => { d with pending := [] }
    return status
  | line :: rest => do
    let open_ := !(← get).desk.pending.isEmpty
    if isIdle line && !open_ then runScript status rest
    else
      let _ ← handleLine line
      let failed := (← get).desk.status
      runScript (if failed == 0 then status else failed) rest

/-- Runs the script of a file. -/
def runScriptFile (path : String) : ShellM Nat := do
  let d := (← get).desk
  match d.files.readText path with
  | .ok text => runScript 0 (lines text)
  | .error (.failure _) => return 1
  | .error f => ShellM.ofDesk (raiseUnreadable f)

/-! ## Running -/

/-- The number that an exception gives as the program's status. -/
def exitStatus (e : Nat) : Run Int := do
  let code ← engine.getAttr (.ref e) "code"
  if !(← Run.truth engine code) then return 0
  else
    match ← Run.makeInt engine [code] [] with
    | .int n => return n
    | _ => return 0

/-- Handles one line and gives the program's status. -/
def runLine (line : String) : ShellM Int := do
  if isAllBlank line then return 0
  else
    let handling : ShellM (Option Int) := do
      let _ ← handleLine line
      return none
    let ending (e : Nat) : ShellM (Option Int) := do
      return some (← ShellM.ofDesk (DeskM.ofRun (exitStatus e)))
    match ← ShellM.catching "SystemExit" handling ending with
    | some status => return status
    | none =>
      let d := (← get).desk
      if d.pending.isEmpty then return d.status
      else
        ShellM.ofDesk (DeskM.puts "Parse error: incomplete input")
        return 1

/-- Runs the startup script, if there is one, and then the session. -/
def runSession (s : Settings) : ShellM Int := do
  let work : ShellM Int := do
    let d := (← get).desk
    if !s.noStartup && d.files.isFile s.startupFile then
      let _ ← runScriptFile s.startupFile
    let _ ← Shell.run
    return 0
  ShellM.catching "KeyboardInterrupt" work fun _ => do
    ShellM.ofDesk (DeskM.puts "")
    return 0

/-- A source that has no lines. -/
def noLines : Shell.Source := {}

/-- Runs the program and gives its status. -/
def run (s : Settings) : DeskM Int := do
  modify s.arrange
  match Command.given? s.command with
  | some line =>
    modify fun d => { d with source := noLines }
    let scope ← DeskM.ofRun (Scope.top [])
    inShell scope (runLine line)
  | none =>
    openHistory (some s.historyFile) s.historyLimit
    let scope ← DeskM.ofRun (Scope.top [])
    inShell scope (runSession s)

end NestShell.Program

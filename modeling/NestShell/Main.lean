import NestShell.Code.Module
import NestShell.Program.Startup
import NestShell.Program.Usage
import NestShell.Shell.Transcript
/-!
The command line. The program is a pure function of the lines that were typed: whenever it wants a
further line it is run again with that line, and only what is new is printed. The files that it can
see are those of the working directory, its history and its startup script; those that it changed
are written at its end.
-/
namespace NestShell

open NestShell.Text NestShell.Files NestShell.Shell NestShell.Program

/-- Takes a file of the system into a tree, if it can be read. -/
def loadFile (t : Tree) (path : String) : IO Tree := do
  try
    let bytes ← IO.FS.readBinFile path
    return t.place path bytes.toList
  catch _ => return t

def loadFiles (current : String) (others : List String) : IO Tree := do
  let mut t : Tree := {}
  t := (t.makeDirectories current).toOption.getD t
  t := (t.enter current).toOption.getD t
  for entry in ← (← IO.currentDir).readDir do
    t ← loadFile t (Path.join current entry.fileName)
  for path in others do
    t ← loadFile t (Path.absolute current path)
  return t

/-- Writes the files that changed. -/
def storeFiles (before after : Tree) : IO Unit := do
  for (location, node) in after.nodes do
    match node with
    | .file bytes =>
      if before.node? location != some node then
        try IO.FS.writeBinFile ("/" ++ "/".intercalate location) ⟨bytes.toArray⟩
        catch _ => pure ()
    | _ => pure ()

/-- How a run of the program ended, and the status that it gives. -/
inductive Ending where
  | awaiting
  | status (n : Int)
  | failure (text : String)

def endingOf (stop : Stop) (d : Desk) : Ending :=
  match stop with
  | .awaiting => .awaiting
  | .outOfFuel => .failure "out of fuel"
  | .raised e | .evaluation e =>
    let work : DeskM Ending := do
      if ← DeskM.isA e "SystemExit" then return .status (← DeskM.ofRun (exitStatus e))
      else return .failure (← DeskM.ofRun (Code.Run.errorTitle e))
    match work d with
    | .ok ending _ => ending
    | .error _ _ => .failure "unknown failure"

def runWith (settings : Settings) (desk : Desk) : Ending × Desk :=
  match run settings desk with
  | .ok n d => (.status n, d)
  | .error stop d => (endingOf stop d, d)

/-- The line without its end. -/
def withoutEnd (line : String) : String :=
  if endsWith line "\n" then String.ofList line.toList.dropLast else line

/-- What a source says at its end. -/
def endMessage : String := "EOF when reading a line"

partial def converse (settings : Settings) (start : Desk) (inputs : List Input) (ended : Bool)
    (printed : Nat) : IO UInt32 := do
  let source : Shell.Source :=
    ⟨inputs, if ended then .ended (some endMessage) else .awaiting, true, []⟩
  let (ending, d) := runWith settings { start with source := source }
  let out := d.machine.output
  let stdout ← IO.getStdout
  stdout.putStr (d.printedFrom printed)
  stdout.flush
  match ending with
  | .awaiting =>
    let line ← (← IO.getStdin).getLine
    if line.isEmpty then converse settings start inputs true out.length
    else converse settings start (inputs ++ [.line (withoutEnd line)]) false out.length
  | .status n =>
    storeFiles start.files d.files
    return (n.emod 256).toNat.toUInt32
  | .failure text =>
    storeFiles start.files d.files
    IO.eprintln text
    return 1

/-- The variables of the environment that the program looks at. -/
def watchedVariables : List String :=
  ["HOME", "COLUMNS", "LINES", "BURROW_HISTORY", "BURROW_RC", "BURROW_LOG"]

/-- Starts the program with the settings that its arguments ask for. -/
def launch (desk : Desk) (home current : String) (args : List String) : IO UInt32 := do
  match defaultSettings desk home with
  | .error f =>
    IO.eprintln f.message
    return 1
  | .ok settings =>
    match readArguments settings args with
    | .error .help =>
      IO.print (helpText desk.columns)
      return 0
    | .error (.fault f) =>
      IO.eprintln (callText (desk.columns - margin))
      IO.eprintln (programName ++ ": error: " ++ f.message)
      return 2
    | .ok settings =>
      let files ← loadFiles current [settings.historyFile, settings.startupFile]
      converse settings { desk with files := files } [] false 0

end NestShell

open NestShell in
def main (args : List String) : IO UInt32 := do
  let current := (← IO.currentDir).toString
  let mut environment : List (String × String) := []
  for name in watchedVariables do
    match ← IO.getEnv name with
    | some value => environment := environment ++ [(name, value)]
    | none => pure ()
  let secret ← IO.rand 0 100
  let desk : Shell.Desk :=
    { machine := Code.Run.library, «variables» := environment, outside := { secret := secret },
      packageRoot := Files.Path.named current }
  launch desk ((environment.lookup "HOME").getD "/") current args

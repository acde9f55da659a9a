import NestShell.Shell.Loop
import NestShell.Shell.Package
import NestShell.Text.Words
/-!
Commands that reach out of the shell: to the system's command interpreter, to the working directory
and to packages.
-/
namespace NestShell.Commands

open NestShell.Text NestShell.Shell DeskM

/-- Raises the exception for a program that is not there. -/
def throwNoProgram {α : Type} (name : String) : DeskM α :=
  ofRun (Code.Run.throwValue (.type "FileNotFoundError")
    [.int 2, .str "No such file or directory"]
    (Code.Names.ofList [("errno", .int 2), ("strerror", .str "No such file or directory"),
      ("filename", .str name)]))

/-- Hands a line to the system's command interpreter and gives its status. Unless output goes to a
terminal, what it prints is printed. -/
def systemCommand (line : String) : DeskM Int := do
  let d ← get
  match d.outside.shellStatus with
  | some status =>
    ask (.systemCommand line)
    return status
  | none =>
    ask (.commandLine line !d.terminal)
    match d.outside.program with
    | none => throwNoProgram (String.ofList (line.toList.take 1))
    | some r =>
      if !d.terminal then
        write r.output
        write r.errors
      return r.status

/-- Goes to a directory, one's home where none is named. -/
def changeDirectory (text : String) : DeskM Unit := do
  let d ← get
  let path := Files.Path.expand d.homes (if text.isEmpty then "~" else text)
  if containsChar '\x00' path then raise "ValueError" "embedded null byte"
  else
    match d.files.enter path with
    | .ok files => set { d with files := files }
    | .error f => putsError ("cd: " ++ f.message)

def runShellEscape : DeskM Reply := do
  let line := trim (← get).trailing
  if line.isEmpty then return .skip
  else
    let (word, rest) := splitFirst line
    if word == "cd" then
      changeDirectory (trim rest)
      return .skip
    else
      let _ ← systemCommand line
      return .nothing

/-! ## Packages -/

def joinWords (ws : List String) : String := " ".intercalate (ws.map Words.quote)

def runPipInstall (ctx : Context) : DeskM Reply := do
  if ctx.args.isEmpty then
    puts ctx.command.usageText
    return .skip
  else
    puts ("Attempting to install package: " ++ " ".intercalate ctx.args)
    let interpreter := (← get).interpreter
    let status ← systemCommand (joinWords ([interpreter, "-m", "pip", "install"] ++ ctx.args))
    if status != 0 then
      putsError ("pip exited with status " ++ toString status)
      return .skip
    else
      puts "Refreshed import caches."
      return .nothing

/-- Goes to a directory that is known to be there. -/
def enterKnown (path : String) (d : Desk) : Desk :=
  match d.files.makeDirectories path with
  | .ok t => { d with files := (t.enter path).toOption.getD t }
  | .error _ => d

def runPkgCd (ctx : Context) : DeskM Reply := do
  match ctx.args with
  | [] =>
    puts ctx.command.usageText
    return .skip
  | name :: _ =>
    let d ← get
    match Package.find? d.files d.packageRoot name with
    | none =>
      puts ("Package `" ++ name ++ "` not found.")
      return .skip
    | some (.inside origin) =>
      puts ("Package `" ++ name ++ "` has no directory (" ++ origin ++ ").")
      return .skip
    | some (.directory path) =>
      modify (enterKnown path)
      puts path
      return .nothing

/-- Shows documentation by way of the system's command interpreter. -/
def runPydoc (back : Reentry) (ctx : Context) : ShellM Reply := do
  let interpreter := (← get).desk.interpreter
  let line := "." ++ Words.quote interpreter ++ " -m pydoc " ++ joinWords ctx.args
  let _ ← back.run (trimEnd line)
  return .nothing

end NestShell.Commands

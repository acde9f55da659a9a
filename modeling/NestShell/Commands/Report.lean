import NestShell.Code.Signature
import NestShell.Commands.Target
/-!
Commands that report on values, functions, the place of the session and the shell.
-/
namespace NestShell.Commands

open NestShell.Code NestShell.Text NestShell.Shell DeskM

def runCat (ctx : Context) : DeskM Reply := do
  let text ← trailingText
  if text.isEmpty then puts "Must provide an object to inspect."
  else puts (← rendered (← evaluate ctx.target text))
  return .nothing

/-! ## Functions -/

/-- The name of a function, or else the one that it was asked for by. -/
def titleOf (v : Value) (asked : Option String) : DeskM String := do
  match ← ofRun (Run.getAttr? engine v "__name__") with
  | none => return asked.getD "None"
  | some (.str s) => return s
  | some w =>
    raise "TypeError" ("can only concatenate str (not \x22" ++ (← ofRun (Run.typeName w)) ++
      "\x22) to str")

def isBound : Value → Bool
  | .bound .. => true
  | _ => false

def describeFunction (asked : Option String) (v : Value) (path : Option String) : DeskM Unit := do
  let doc ← ofRun (Run.docOfValue v)
  puts ((← bold "Method Name: ") ++ (← titleOf v asked))
  puts ((← bold "Method Language: ") ++ (if path.isSome then "Python" else "Builtin"))
  puts ((← bold "Method Type: ") ++ (if isBound v then "Bound" else "Unbound"))
  let signature ← ofRun (Run.signature? v)
  puts ((← bold "Method Arity: ") ++ (signature.map fun s => toString s.arity).getD "(unknown)")
  puts ((← bold "Method Parameters: ") ++ (signature.map Signature.summary).getD "(unknown)")
  let length := (lines doc).length
  puts ((← bold "Comment length: ") ++
    (if doc.isEmpty then "No comment." else toString length ++ " lines."))

def runStat (ctx : Context) : DeskM Reply := do
  let scope ← scopeOf ctx
  let name := ctx.args.head?
  let v ← methodObject ctx scope name
  if v.isNone || !(← ofRun (Run.callable v)) then
    puts ("Invalid method name: " ++ name.getD "None" ++ ". Type `stat --help` for help")
  else
    let path := Command.given? (← ofRun (Run.originOf v)).path
    match path with
    | some p => setFileLocals ctx.target p
    | none => pure ()
    describeFunction name v path
  return .nothing

/-! ## The place of the session -/

/-- The lines of a source file that is known or can be read. -/
def linesOfFile (file : String) : DeskM (List String) := do
  match ← ofRun (Run.sourceLines? file) with
  | some ls => return ls
  | none =>
    match (← get).files.readText file with
    | .ok text =>
      let ls := splitOnChar '\n' text
      return if ls.getLast? == some "" then ls.dropLast else ls
    | .error _ => return []

/-- The lines around one line, with their numbers. -/
def contextLines (ls : List String) (line around : Int) : List (Int × String) :=
  let first := max 1 (line - around)
  let last := min (ls.length : Int) (line + around)
  (List.range (last + 1 - first).toNat).map fun (i : Nat) =>
    let number := first + i
    (number, (ls[(number - 1).toNat]?).getD "")

/-- Shows a line behind its number; the line that the context is for is marked. -/
def showContextLine (line : Int) (row : Int × String) : DeskM Unit := do
  let marker := if row.1 == line then " =>" else "   "
  let code ← highlighted "python" none row.2
  puts (marker ++ padStart 4 (toString row.1) ++ ": " ++ code)

def showPlace (scope : Scope) (file : String) (line : Nat) (around : Int) : DeskM Reply := do
  match ← linesOfFile file with
  | [] =>
    puts ("Cannot read source file " ++ file ++ ".")
    return .skip
  | ls =>
    setFileLocals scope file
    let kind ← ofRun (Run.typeName scope.receiver)
    let function := (Command.given? scope.functionName).getD "N/A"
    puts ("\n" ++ (← bold "From:") ++ " " ++ file ++ " @ line " ++ toString line ++ " in " ++
      kind ++ "#" ++ function ++ ":\n")
    for row in contextLines ls line around do showContextLine line row
    return .nothing

def runWhereami (ctx : Context) : DeskM Reply := do
  let scope := ctx.target
  let around? : Except String Int := match ctx.args with
    | [] => .ok 5
    | text :: _ => match int? text with
      | some n => .ok n
      | none => .error text
  match around?, Command.given? scope.file, scope.line with
  | .error text, _, _ =>
    putsError ("AROUND must be an integer: " ++ text)
    return .skip
  | .ok around, some file, some (n + 1) =>
    if startsWith file "<" then noPlace else showPlace scope file (n + 1) around
  | _, _, _ => noPlace
where
  noPlace : DeskM Reply := do
    puts "Cannot find local context. Did you use `burrow.embed()`?"
    return .skip

/-! ## The shell -/

/-- The version of the shell. -/
def shellVersion : String := "0.1.0"

/-- The form in which the shell shows itself. -/
def shellShown (d : Desk) : String :=
  if d.attached then "<burrow.repl.Shell object at " ++ addressText 1 ++ ">" else "None"

def runStatus (ctx : Context) : DeskM Reply := do
  let d ← get
  puts "Status:"
  puts "--"
  puts ("Receiver: " ++ (← viewClip ctx.target.receiver))
  puts ("Nesting level: " ++ toString ctx.stack.depth)
  puts ("burrow version: " ++ shellVersion)
  puts ("Python version: " ++ d.languageVersion)
  puts ("Current method: " ++ (Command.given? ctx.target.functionName).getD "N/A")
  puts ("Shell instance: " ++ shellShown d)
  puts ("Last result: " ++ (← view d.lastResult))
  return .nothing

def runVersion : DeskM Reply := do
  puts ("burrow version: " ++ shellVersion ++ " on Python " ++ (← get).languageVersion ++ ".")
  return .nothing

end NestShell.Commands

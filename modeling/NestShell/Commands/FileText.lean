import NestShell.Commands.Target
/-!
Commands that show and evaluate files.
-/
namespace NestShell.Commands

open NestShell.Code NestShell.Text NestShell.Shell DeskM

/-! ## Ranges of lines -/

def fromEnd (count : Nat) (i : Int) : Int := if i < 0 then i + count else i

/-- The lines from `start` to `stop`, counted from zero and both included; negative numbers count
from the end. The bounds that were used are given as well. -/
def lineRange (text : String) (start stop : Int) : String × Int × Int :=
  let ls := linesWithEnds text
  let count := ls.length
  let first := max 0 (min (fromEnd count start) count)
  let last := max (-1) (min (fromEnd count stop) ((count : Int) - 1))
  (String.join ((ls.take (last + 1).toNat).drop first.toNat), first, last)

/-- Why the lines of a file cannot be had. -/
inductive LinesFault where
  | unreadable (f : Files.ReadFault)
  | unknownHome

/-- Reads lines of a file. -/
def readLines (d : Desk) (path : String) (start stop : Int) :
    Except LinesFault (String × Int × Int) :=
  match Files.Path.expandPlain? d.homes path with
  | none => .error .unknownHome
  | some full =>
    match d.files.readText full with
    | .ok text => .ok (lineRange text start stop)
    | .error f => .error (.unreadable f)

def putsUnreadable (path : String) (f : Files.ReadFault) : DeskM Reply := do
  match f with
  | .nullByte => raise "ValueError" f.message
  | _ =>
    putsError ("cannot read " ++ path ++ ": " ++ f.message)
    return .skip

/-- The number that an option's value is, or the report that it is none. -/
def intOption (value : Value) (flag : String) : Run (Except String Int) := do
  let reading : Run (Option Int) := do
    match ← Run.makeInt engine [value] [] with
    | .int n => return some n
    | _ => return none
  let failed (_ : Nat) : Run (Option Int) := return none
  match ← Run.catchingOnly "TypeError" (Run.catchingOnly "ValueError" reading failed) failed with
  | some n => return .ok n
  | none =>
    return .error ("--" ++ flag ++ " expects an integer, got " ++ (← engine.shown value))

def optionValue (ctx : Context) (key : String) : Value := (ctx.options.get? key).getD .none

/-! ## Showing -/

def showFile (ctx : Context) (path : String) (start stop : Int) : DeskM Reply := do
  match readLines (← get) path start stop with
  | .error .unknownHome =>
    raise "RuntimeError" "Could not determine home directory."
  | .error (.unreadable f) => putsUnreadable path f
  | .ok (text, first, _) =>
    setFileLocals ctx.target path
    let language := (← get).outside.drawing.guess path text (ctx.options.text? "type")
    let shown ← highlighted language (numbersFrom ctx (first + 1)) (trimEndOf ['\n'] text)
    pageTrimmed (ctx.options.isOn "flood") shown
    return .nothing

def runCatFile (ctx : Context) : DeskM Reply := do
  match ctx.args with
  | [] =>
    puts "Must provide a file name."
    return .skip
  | name :: _ =>
    let path := Files.Path.expand (← get).homes name
    match ← ofRun (intOption (optionValue ctx "start") "start") with
    | .error report =>
      putsError report
      return .skip
    | .ok start =>
      match ← ofRun (intOption (optionValue ctx "end") "end") with
      | .error report =>
        putsError report
        return .skip
      | .ok stop => showFile ctx path start stop

/-! ## Evaluating -/

/-- The names of a scope that were not there before, but those that programs do not choose. -/
def addedNames (before after : List String) : List String :=
  (after.filter fun n => !before.contains n && !startsWith n "__").mergeSort fun a b => a ≤ b

def evaluateFile (ctx : Context) (path source : String) : DeskM Reply := do
  let context := ctx.options.text? "context"
  let given := ctx.options.isGiven "context"
  let scope ← if given then scopeOf ctx else pure ctx.stack.base.scope
  let before ← ofRun scope.localNames
  let _ ← evaluate scope source
  puts "--"
  puts ("Eval'd '" ++ path ++ "' " ++
    (if given then "in the `" ++ context.getD "None" ++ "` context." else "at top-level."))
  let added := addedNames before (← ofRun scope.localNames)
  if !added.isEmpty then
    puts ("Brought in the following top-level names: " ++ ", ".intercalate added)
  setFileLocals ctx.target path
  return .nothing

def runEvalFile (ctx : Context) : DeskM Reply := do
  match ctx.args with
  | [] =>
    puts "Must provide a file name."
    return .skip
  | name :: _ =>
    let d ← get
    let path := Files.Path.expand d.homes name
    match d.files.readText path with
    | .error f => putsUnreadable path f
    | .ok source => evaluateFile ctx path source

end NestShell.Commands

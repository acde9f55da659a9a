import NestShell.Commands.Levels
import NestShell.Text.Json
/-!
Bodies that are put together from steps.
-/
namespace NestShell.Commands

open NestShell.Code NestShell.Text NestShell.Shell NestShell.Command DeskM

/-- The form in which options show themselves. -/
def optionsShown (p : Options.Parsed) : DeskM String := ofRun do
  let values ← Run.dictOf p.values
  let args ← Run.newList (p.args.map .str)
  return "ParsedOptions(" ++ (← engine.shown values) ++ ", args=" ++ (← engine.shown args) ++ ")"

def echo (ctx : Context) : DeskM Unit := do
  puts ((← optionsShown ctx.options) ++ " trailing=" ++ quoted (← get).trailing ++ " line=" ++
    quoted ctx.line ++ " level=" ++ toString ctx.stack.depth)

/-- Raises a new exception of a built-in class. -/
def raiseNew {α : Type} (className : String) (args : List Value) : DeskM α := do
  let cls := (builtinValue? className).getD (.type className)
  match ← ofRun (engine.call cls args []) with
  | .ref a => throw (.raised a)
  | _ => raise "TypeError" "exceptions must derive from BaseException"

/-! ## Outcomes as texts -/

/-- The fields of an object between braces. -/
def jsonObject (fields : List (String × String)) : String :=
  "\x7b" ++ ", ".intercalate (fields.map fun (n, v) => jsonQuoted n ++ ": " ++ v) ++ "\x7d"

def levelJson (v : Value) : DeskM String := do
  match v with
  | .none => return "null"
  | .bool b => return if b then "true" else "false"
  | .str s => return jsonQuoted s
  | _ => view v

def signalJson : Signal → DeskM String
  | .proceed none => return jsonObject [("continue", "null")]
  | .proceed (some v) => do return jsonObject [("continue", jsonQuoted (← view v))]
  | .skip => return jsonObject [("skip", "true")]
  | .breakout level v => do
    return jsonObject [("breakout", ← levelJson level), ("value", jsonQuoted (← view v))]

def outcomeJson : Outcome → DeskM String
  | .handled s => signalJson s
  | .noSuchCommand line =>
    pure (jsonObject [("name", jsonQuoted (splitFirst line).1), ("no_such_command", jsonQuoted line)])
  | .parseFailure reason command =>
    pure (jsonObject [("command", jsonQuoted command), ("parse_failure", jsonQuoted reason)])

/-! ## Steps -/

def runLines (back : Reentry) : List String → ShellM Unit
  | [] => return
  | line :: rest => do
    let outcome ← back.run line
    ShellM.ofDesk do puts ("ran " ++ (← outcomeJson outcome))
    runLines back rest

/-- The session at an index; negative ones count from the top. -/
def sessionAt? (s : Stack) (index : Int) : Option Session :=
  let i := if index < 0 then index + s.sessions.length else index
  if i < 0 then none else s.sessions[i.toNat]?

def releaseAt (index : Int) : ShellM Unit := do
  let s ← get
  match sessionAt? s.stack index with
  | some session => modify fun s => { s with stack := s.stack.release session }
  | none => ShellM.ofDesk (raise "IndexError" "list index out of range")

def setStyle (name : String) : DeskM Unit := do
  match PromptStyle.ofName? name with
  | some style => modify fun d => { d with promptStyle := style }
  | none => raise "ValueError" ("unknown prompt style: " ++ name)

/-- Calls a value with what a body knows. -/
def callWith (f : Value) : Run Value := do
  let context ← Run.foreignNew "CommandContext" "CommandContext()"
  let options ← Run.foreignNew "ParsedOptions" "ParsedOptions()"
  engine.call f [context, options] []

/-- Takes one step; it may end the body. -/
def takeStep (back : Reentry) (ctx : Context) : Step → ShellM (Option Reply)
  | .value v => return some (.value v)
  | .echo => do
    ShellM.ofDesk (echo ctx)
    return none
  | .breakout level v => return some (.signal (.breakout level v))
  | .skip => return some .skip
  | .proceed v => return some (.signal (.proceed v))
  | .raise className args => ShellM.ofDesk (raiseNew className args)
  | .run lines => do
    runLines back lines
    return none
  | .evaluate => do return some (.value (← ShellM.ofDesk (evaluateTrailing ctx)))
  | .read prompt => do
    let s ← get
    ShellM.ofDesk do puts ("read " ++ quoted (← readLine s.stack.depth prompt))
    return none
  | .nest receiver => do return some (.value (← startAttached back receiver))
  | .release index => do
    releaseAt index
    return none
  | .style name => do
    ShellM.ofDesk (setStyle name)
    return none
  | .pager => ShellM.ofDesk do
    modify fun d => { d with pager := !d.pager }
    puts ("pager=" ++ (if (← get).pager then "True" else "False"))
    return none
  | .replay lines => do
    ShellM.modifyDesk fun d => { d with replay := d.replay ++ lines }
    return none
  | .call f => do return some (.value (← ShellM.ofDesk (ofRun (callWith f))))

/-- Takes steps until one ends the body. -/
def takeSteps (back : Reentry) (ctx : Context) : List Step → ShellM Reply
  | [] => return .nothing
  | s :: rest => do
    match ← takeStep back ctx s with
    | some r => return r
    | none => takeSteps back ctx rest

end NestShell.Commands

import NestShell.Code.Provenance
import NestShell.Shell.State
/-!
What commands on functions, methods and classes have in common: the scope they look in, the object
that a name stands for there, and the heading over its text.
-/
namespace NestShell.Commands

open NestShell.Code NestShell.Text NestShell.Shell DeskM

/-- The text after the command's word. -/
def trailingText : DeskM String := do return trim (← get).trailing

/-- Evaluates the text after the command's word; there may be none. -/
def evaluateTrailing (ctx : Context) : DeskM Value := do
  let text ← trailingText
  if text.isEmpty then return .none else evaluate ctx.target text

/-- The scope that the context flag names, or else the current one. -/
def scopeOf (ctx : Context) : DeskM Scope := do
  match ctx.options.text? "context" with
  | none | some "" => return ctx.target
  | some source =>
    let receiver ← evaluate ctx.target source
    ofRun (ctx.target.child receiver)

/-- An attribute, or nothing. -/
def attributeOf (v : Value) (name : String) : DeskM Value :=
  ofRun do return (← Run.getAttr? engine v name).getD .none

/-- Evaluates a name; where that fails, it is taken for an attribute of the receiver. -/
def evaluateName (scope : Scope) (name : String) : DeskM Value :=
  tryCatch (evaluate scope name) fun
    | .evaluation _ => attributeOf scope.receiver name
    | stop => throw stop

/-- The function, method or class of a name, without one that of the current function. -/
def methodObject (ctx : Context) (scope : Scope) (name : Option String) : DeskM Value := do
  match (Command.given? name).orElse fun _ => Command.given? scope.functionName with
  | none => return .none
  | some n =>
    if ctx.options.isOn "instance_methods" then
      let owner ← ofRun do
        if ← Run.isClass scope.receiver then return scope.receiver
        else Run.classOf scope.receiver
      attributeOf owner n
    else if ctx.options.isOn "methods" then attributeOf scope.receiver n
    else evaluateName scope n

def putsNoMethod (name : Option String) : DeskM Unit :=
  putsError ("could not find method: " ++ (Command.given? name).getD "(current)")

/-- How a place is written in headings. -/
def originText (o : Run.Origin) : String :=
  match o.path with
  | none => "(unknown location)"
  | some "" => "(unknown location)"
  | some path => path ++ " @ line " ++ (o.line.map toString).getD "None"

/-- The heading over the text of an object. -/
def heading (v : Value) (content : String) : DeskM String := do
  let origin ← ofRun (Run.originOf v)
  let origin := originText origin
  return "\n" ++ (← bold "From:") ++ " " ++ origin ++ ":\n" ++ (← bold "Number of lines:") ++ " " ++
    toString (lines content).length ++ "\n"

/-- The number of the first line, where the line asks for numbers. -/
def numbersFrom (ctx : Context) (first : Int) : Option Int :=
  if ctx.options.isOn "line_numbers" then some first else none

/-- Shows the text of an object under its heading. -/
def showUnderHeading (ctx : Context) (v : Value) (content shown : String) : DeskM Unit := do
  pageTrimmed (ctx.options.isOn "flood") ((← heading v content) ++ "\n" ++ shown)

/-- Binds the names of a file and of its directory in a scope. -/
def setFileLocals (scope : Scope) (path : String) : DeskM Unit := do
  let d ← get
  let full := Files.Path.absolute d.files.working (Files.Path.expand d.homes path)
  ofRun do
    scope.setLocal "_file_" (.str full)
    scope.setLocal "_dir_" (.str (Files.Path.parent full))

end NestShell.Commands

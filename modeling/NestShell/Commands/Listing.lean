import NestShell.Commands.Target
import NestShell.Pattern.Match
import NestShell.Text.Columns
/-!
The list of the variables and methods of a session's scope and receiver, in sections.
-/
namespace NestShell.Commands

open NestShell.Code NestShell.Text NestShell.Shell DeskM

/-- What a list is restricted to, and how much it says. -/
structure Selection where
  pattern : Pattern
  verbose : Bool
  /-- Only the methods that the receiver itself sets. -/
  less : Bool
  /-- Also the methods that every object has. -/
  more : Bool

/-- The lists that can be asked for. -/
inductive Section where
  | locals
  | globals
  | instanceVariables
  | classVariables
  | constants
  | instanceMethods
  | methods
  deriving DecidableEq, Repr

def Section.key : Section → String
  | .locals => "locals"
  | .globals => "globals"
  | .instanceVariables => "instance_variables"
  | .classVariables => "class_variables"
  | .constants => "constants"
  | .instanceMethods => "instance_methods"
  | .methods => "methods"

/-- All lists in the order in which they are shown. -/
def Section.all : List Section :=
  [.locals, .globals, .instanceVariables, .classVariables, .constants, .instanceMethods, .methods]

/-- The lists that options ask for; without any, local variables and methods. -/
def Section.chosen (p : Options.Parsed) : List Section :=
  let isChosen (s : Section) : Bool := p.isOn s.key
  match all.filter isChosen with
  | [] => [.locals, .methods]
  | ss => ss

/-- A heading and a list, on one line where that is short enough. -/
def sectionText (title : String) (items : List String) : DeskM String := do
  let columns := (← get).columns
  let head ← italic (title ++ ":")
  let oneLine := "  ".intercalate items
  if items.isEmpty then return head ++ " (none)"
  else if title.length + oneLine.length + 2 ≤ columns then return head ++ " " ++ oneLine
  else return head ++ "\n" ++ tablify columns items

def absentText (title reason : String) : DeskM String := do
  return (← italic (title ++ ":")) ++ " (" ++ reason ++ ")"

/-- Names in the order of their characters. -/
def sorted (names : List String) : List String := names.mergeSort fun a b => a ≤ b

/-- The chosen variables of a table. -/
def variableTexts (sel : Selection) (names : List String) (lookup : String → Value) :
    DeskM (List String) := do
  let chosen := (sorted names).filter fun n =>
    !startsWith n "__" && sel.pattern.occursIn n
  if sel.verbose then chosen.mapM fun n => do return n ++ "=" ++ (← viewClip (lookup n))
  else return chosen

def tableVariables (sel : Selection) (t : Names) (names : List String) : DeskM (List String) :=
  variableTexts sel names fun n => (t.get? n).getD .none

/-- The attributes that every object has. -/
def commonNames : List String := kindNames "object"

def isWrapped (v : Value) : Run Bool := do
  match v with
  | .ref a =>
    match ← Run.object a with
    | .staticMethod _ | .classMethod _ => return true
    | _ => return false
  | _ => return false

/-- The names that a value itself keeps. -/
def ownTable (v : Value) : Run Names := do return (← Run.ownNames? v).getD {}

def isMethod (owner : Value) (name : String) : Run Bool := do
  match ← Run.getAttr? engine owner name with
  | some v => Run.callable v
  | none => return false

/-- The names of an object's methods. -/
def methodNames (sel : Selection) (owner : Value) : Run (List String) := do
  let names ←
    if sel.less then do
      let own := (← ownTable owner).entries
      let methods ← own.filterM fun (_, v) => do return (← Run.callable v) || (← isWrapped v)
      pure (methods.map (·.1))
    else do (← Run.directory engine owner).filterM (isMethod owner)
  let isOrdinary (n : String) : Bool := !isDunder n && !commonNames.contains n
  return sorted (if sel.more then names else names.filter isOrdinary)

/-- A method with the place where it is written. -/
def methodPlace (owner : Value) (name : String) : Run String := do
  let v := (← Run.getAttr? engine owner name).getD .none
  let origin ← Run.originOf v
  match origin.path with
  | some path =>
    if path.isEmpty then return name ++ " (builtin)"
    else return name ++ " (" ++ path ++ ":" ++ (origin.line.map toString).getD "None" ++ ")"
  | none => return name ++ " (builtin)"

def methodList (sel : Selection) (owner : Value) (names : List String) : Run (List String) := do
  let chosen := names.filter sel.pattern.occursIn
  if sel.verbose then chosen.mapM (methodPlace owner) else return chosen

def isModule (v : Value) : Run Bool := do
  match v with
  | .ref a => return ((← Run.object a) matches .module ..)
  | _ => return false

/-- Variables of an object that cannot be called. -/
def plainNames (t : Names) (withWrapped : Bool) : Run (List String) := do
  let plain ← t.entries.filterM fun (_, v) => do
    if ← Run.callable v then return false
    else if withWrapped then return true
    else
      let property ← match v with
        | .ref a => do pure ((← Run.object a) matches .property ..)
        | _ => pure false
      return !property && !(← isWrapped v)
  return plain.map (·.1)

/-- One list of a scope. -/
def sectionOf (sel : Selection) (scope : Scope) (s : Section) : DeskM String := do
  let receiver := scope.receiver
  match s with
  | .locals =>
    let t ← ofRun (Run.namesAt scope.locals)
    sectionText "Local variables" (← tableVariables sel t (← ofRun scope.localNames))
  | .globals =>
    let t ← ofRun (Run.namesAt scope.globals)
    sectionText "Global variables" (← tableVariables sel t (← ofRun scope.globalNames))
  | .instanceVariables =>
    let t ← ofRun (ownTable receiver)
    sectionText "Instance variables" (← tableVariables sel t (← ofRun (plainNames t true)))
  | .classVariables =>
    if ← ofRun (Run.isClass receiver) then
      let t ← ofRun (ownTable receiver)
      sectionText "Class variables" (← tableVariables sel t (← ofRun (plainNames t false)))
    else absentText "Class variables" "not a class"
  | .constants =>
    if (← ofRun (Run.isClass receiver)) || (← ofRun (isModule receiver)) then
      let t ← ofRun (ownTable receiver)
      sectionText "Constants" (← tableVariables sel t (t.keys.filter isUpper))
    else absentText "Constants" "not a module or class"
  | .instanceMethods =>
    if ← ofRun (Run.isClass receiver) then
      let names ← ofRun (methodNames sel receiver)
      sectionText "Instance methods" (← ofRun (methodList sel receiver names))
    else absentText "Instance methods" "not a class"
  | .methods =>
    let isNamespace := (← ofRun (Run.isClass receiver)) || (← ofRun (isModule receiver))
    let owner ← if sel.less && !isNamespace then ofRun (Run.classOf receiver) else pure receiver
    let names ← ofRun (methodNames sel owner)
    sectionText "Methods" (← ofRun (methodList sel receiver names))

def listScope (ctx : Context) (pattern : Pattern) : DeskM Unit := do
  let p := ctx.options
  let sel : Selection := ⟨pattern, p.isOn "verbose", p.isOn "less", p.isOn "more"⟩
  let parts ← (Section.chosen p).mapM (sectionOf sel ctx.target)
  puts ("\n\n".intercalate parts)

def runLs (ctx : Context) : DeskM Reply := do
  if (← trailingText).isEmpty then puts ctx.command.usageText
  else
    let text := (ctx.options.text? "filter").getD ""
    match Pattern.read text { ignoreCase := true } with
    | .ok pattern => listScope ctx pattern
    | .error .countTooLarge =>
      raise "OverflowError" (Pattern.Fault.message text .countTooLarge)
    | .error f => putsError ("invalid filter: " ++ f.message text)
  return .nothing

end NestShell.Commands

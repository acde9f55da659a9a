import NestShell.Code.Scope
import NestShell.Text.Search
/-!
Where values come from: the file and line of functions, classes and modules of programs, their
source text, and what their documentation says.
-/
namespace NestShell.Code

open NestShell.Text

/-! ## Documentation -/

/-- How far a line is indented; blank lines are not. -/
def indentOf? (cs : List Char) : Option Nat :=
  let content := cs.dropWhile isBlank
  if content.isEmpty then none else some (cs.length - content.length)

def dropBlankFront (ls : List (List Char)) : List (List Char) := ls.dropWhile List.isEmpty

/-- Documentation without the indentation that its lines after the first share, and without empty
lines at its ends. -/
def cleanDoc (doc : String) : String :=
  match (expandTabsFrom 8 0 doc.toList).splitOn '\n' with
  | [] => ""
  | first :: rest =>
    let margin := (rest.filterMap indentOf?).min?
    let rest := match margin with
      | some m => rest.map (List.drop m)
      | none => rest
    let ls := first.dropWhile isBlank :: rest
    let ls := dropBlankFront (dropBlankFront ls.reverse).reverse
    "\n".intercalate (ls.map String.ofList)

namespace Run

/-- The first documentation among classes, the one below all of them left out. -/
def docAmong : List Value → Run Value
  | [] => return .none
  | .type "object" :: cs => docAmong cs
  | c :: cs => do
    match (← getAttr? engine c "__doc__").getD .none with
    | .none => docAmong cs
    | doc => return doc

/-- The first documentation that a method of a name has among classes. -/
def methodDocAmong (name : String) : List Value → Run Value
  | [] => return .none
  | c :: cs => do
    match ← getAttr? engine c name with
    | none => methodDocAmong name cs
    | some m =>
      match (← getAttr? engine m "__doc__").getD .none with
      | .none => methodDocAmong name cs
      | doc => return doc

/-- The class of a known module that a qualified name begins with. -/
def classAlong : Value → List String → Run (Option Value)
  | c, [] => return some c
  | c, n :: ns => do
    match ← getAttr? engine c n with
    | some d => classAlong d ns
    | none => return none

def definingClass? (f : Function) : Run (Option Value) := do
  match f.moduleName with
  | .str m =>
    match (← get).modules.lookup m with
    | some a =>
      let path := ((splitOnSimple f.qualifiedName).dropLast)
      match ← classAlong (.ref a) path with
      | some c => return if ← isClass c then some c else none
      | none => return none
    | none => return none
  | _ => return none
where
  splitOnSimple (s : String) : List String := splitOnChar '.' s

/-- Documentation that a value without any inherits. -/
def inheritedDoc (v : Value) : Run Value := do
  let fromFunction (f : Function) (self : Value) : Run Value := do
    match ← definingClass? f with
    | none => return .none
    | some c =>
      match ← getAttr? engine c f.name with
      | some w => if w.same self then methodDocAmong f.name (← order c) else return .none
      | none => return .none
  if ← isClass v then docAmong (← order v)
  else
    match v with
    | .bound r (.ref a) =>
      match ← object a with
      | .function f =>
        let c ← if ← isClass r then pure r else classOf r
        methodDocAmong f.name (← order c)
      | _ => return .none
    | .ref a =>
      match ← object a with
      | .function f => fromFunction f v
      | .property (.ref g) _ =>
        match ← object g with
        | .function f => fromFunction f v
        | _ => return .none
      | _ => return .none
    | _ => return .none

/-- What the documentation of a value says. -/
def docOfValue (v : Value) : Run String := do
  let own := (← getAttr? engine v "__doc__").getD .none
  let doc ← if own.isNone then inheritedDoc v else pure own
  match doc with
  | .str s => return cleanDoc s
  | _ => return ""

/-! ## Sources -/

/-- A place in a file. -/
structure Origin where
  path : Option String := none
  line : Option Nat := none

/-- The file of a module that is known by name. -/
def moduleFile? (name : Value) : Run (Option String) := do
  match name with
  | .str n =>
    match (← get).modules.lookup n with
    | some a =>
      match (← getAttr? engine (.ref a) "__file__").getD .none with
      | .str f => return if f.isEmpty then none else some f
      | _ => return none
    | none => return none
  | _ => return none

/-- The known lines of a file. -/
def sourceLines? (file : String) : Run (Option (List String)) := do
  return ((← get).sources.lookup file).filter fun ls => !ls.isEmpty

/-- A file and the first and last of the lines that a value was written on, where they are known. -/
def writtenAt (v : Value) : Run (Option (String × Option (Nat × Nat))) := do
  let known (file : String) (low high : Nat) : Run (Option (String × Option (Nat × Nat))) := do
    match ← sourceLines? file with
    | some ls => return some (file, if low ≤ ls.length then some (low, high) else none)
    | none => return some (file, none)
  let ofFunction (f : Function) := known f.file f.firstLine f.lastLine
  match v with
  | .bound _ (.ref a) =>
    match ← object a with
    | .function f => ofFunction f
    | _ => return none
  | .ref a =>
    match ← object a with
    | .function f => ofFunction f
    | .cls k =>
      match ← moduleFile? ((k.members.get? "__module__").getD .none) with
      | some file =>
        if k.file == file then known file k.firstLine k.lastLine else return some (file, none)
      | none => return none
    | .module .. =>
      match (← getAttr? engine v "__file__").getD .none with
      | .str file =>
        if file.isEmpty then return none
        else
          match ← sourceLines? file with
          | some ls => return some (file, some (0, ls.length))
          | none => return some (file, none)
      | _ => return none
    | _ => return none
  | _ => return none

def originOf (v : Value) : Run Origin := do
  match ← writtenAt v with
  | none => return {}
  | some (path, none) => return { path := some path }
  | some (path, some (low, _)) => return { path := some path, line := some low }

/-- The source text of a value, and the number of its first line. -/
def sourceText? (v : Value) : Run (Option (String × Nat)) := do
  match ← writtenAt v with
  | some (path, some (low, high)) =>
    let ls := (← sourceLines? path).getD []
    let part := (ls.take high).drop (low - 1)
    return some (String.join (part.map (· ++ "\n")), max low 1)
  | _ => return none

/-- What a value calls itself. -/
def describe (v : Value) : Run String := do
  for n in ["__qualname__", "__name__"] do
    match ← getAttr? engine v n with
    | some w => if ← truth engine w then return ← engine.text w
    | none => pure ()
  typeName v

end Run

end NestShell.Code

import NestShell.Code.Grammar.Expression
/-!
Targets of assignments, loops and deletions: names, attributes, items, and lists of these.
-/
namespace NestShell.Code.Grammar

open Code.Parser

variable (r : Rules)

def extensible : Parser Unit := ahead (oneOf [mark "(", mark "[", mark "."])

def extendOwner : Nat → Expr → Parser Expr
  | 0, _ => throw .outOfFuel
  | fuel + 1, e => do
    let next : Parser Expr := do
      let e ← extension r e
      extensible
      return e
    match ← attempt? next with
    | some e => extendOwner fuel e
    | none => return e

/-- The object whose attribute or item is a target. -/
def targetOwner : Parser Expr := remembered 11 do
  let e ← r.atom
  extensible
  extendOwner r ((← read).tokens.size + 2) e

def notExtensible : Parser Unit := notAhead extensible

/-- An attribute or item as a target. -/
def memberTarget : Parser Expr := do
  let e ← targetOwner r
  oneOf [
    do
      discard (mark ".")
      let t ← name
      notExtensible
      return .attribute e.line e t.text t.line,
    do
      discard (mark "[")
      let s ← r.slices
      discard (mark "]")
      notExtensible
      return .index e.line e s]

def nameTarget : Parser Expr := do
  let t ← name
  return .name t.line t.text

/-- Two or more targets, or one with a comma. -/
def tupleTargets (item : Parser Expr) : Parser (List Expr) := do
  let first ← item
  let more ← many do comma; item
  if more.isEmpty then comma else optionalComma
  return first :: more

def listTargets (item : Parser Expr) : Parser (List Expr) := do
  let items ← separated "," item
  optionalComma
  return items

def plainTarget : Parser Expr := remembered 12 <| oneOf [
  memberTarget r,
  nameTarget,
  do
    discard (mark "(")
    let e ← r.plainTarget
    discard (mark ")")
    return e,
  do
    let t ← mark "("
    let items ← optional (tupleTargets r.target)
    discard (mark ")")
    return .tuple t.line (items.getD []),
  do
    let t ← mark "["
    let items ← optional (listTargets r.target)
    discard (mark "]")
    return .list t.line (items.getD [])]

def target : Parser Expr := remembered 13 <| oneOf [
  do
    let t ← mark "*"
    notAhead (mark "*")
    return .star t.line (← r.target),
  plainTarget r]

/-- The targets before one `=` or of a loop. -/
def targetList : Parser Expr := oneOf [
  do
    let e ← target r
    notAhead comma
    return e,
  do
    let first ← target r
    let more ← many do comma; target r
    optionalComma
    return .tuple first.line (first :: more)]

/-- A target that is neither a list nor a tuple. -/
def singleTarget : Parser Expr := oneOf [
  memberTarget r,
  nameTarget,
  do
    discard (mark "(")
    let e ← r.singleTarget
    discard (mark ")")
    return e]

def deletedTarget : Parser Expr := remembered 14 <| oneOf [
  memberTarget r,
  nameTarget,
  do
    discard (mark "(")
    let e ← r.deletedTarget
    discard (mark ")")
    return e,
  do
    let t ← mark "("
    let items ← optional (listTargets r.deletedTarget)
    discard (mark ")")
    return .tuple t.line (items.getD []),
  do
    let t ← mark "["
    let items ← optional (listTargets r.deletedTarget)
    discard (mark "]")
    return .list t.line (items.getD [])]

/-- A list or tuple, in brackets or not, where a single target is wanted. -/
def annotatedContainer : Parser Expr := oneOf [
  listDisplay r,
  tupleDisplay r,
  do
    discard (mark "(")
    let e ← r.annotatedContainer
    discard (mark ")")
    return e]

end NestShell.Code.Grammar

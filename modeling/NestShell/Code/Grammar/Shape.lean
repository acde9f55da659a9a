import NestShell.Code.Grammar.Target
/-!
The shapes that cases of a selection ask for: constants, names, sequences, mappings, and objects
of a class.
-/
namespace NestShell.Code.Grammar

open Code.Parser

variable (r : Rules)

/-! ## Constants -/

def isImaginary : Expr → Bool
  | .const _ (.complex ..) => true
  | _ => false

def realNumber : Parser Expr := do
  let e ← number
  if isImaginary e then complainAt e.line .realWanted else return e

def imaginaryNumber : Parser Expr := do
  let e ← number
  if isImaginary e then return e else complainAt e.line .imaginaryWanted

/-- A number that may have a minus sign. -/
def signed (item : Parser Expr) : Parser Expr := oneOf [
  item,
  do
    let t ← mark "-"
    return .unary t.line .negative (← item)]

def complexNumber : Parser Expr := oneOf [
  do
    let e ← signed realNumber
    discard (mark "+")
    return .binary e.line .add e (← imaginaryNumber),
  do
    let e ← signed realNumber
    discard (mark "-")
    return .binary e.line .subtract e (← imaginaryNumber)]

/-- A constant that is compared, a number or a text. -/
def literal : Parser Expr := oneOf [
  do
    let e ← signed number
    notAhead (oneOf [mark "+", mark "-"])
    return e,
  complexNumber,
  strings r]

def singleton : Parser (Nat × Value) := oneOf [
  do return ((← word "None").line, .none),
  do return ((← word "True").line, .bool true),
  do return ((← word "False").line, .bool false)]

/-! ## Names -/

/-- What makes of a name the beginning of another shape. -/
def notBare : Parser Unit := notAhead (oneOf [mark ".", mark "(", mark "="])

def captureTarget : Parser Token := do
  notAhead (word "_")
  let t ← name
  notBare
  return t

/-- A name with the attributes behind it. -/
def dottedPath : Parser Expr := do
  let t ← name
  let more ← many do discard (mark "."); name
  return more.foldl (fun e t => .attribute e.line e t.text t.line) (.name t.line t.text)

def attributePath : Parser Expr := do
  match ← dottedPath with
  | .attribute l e n k => return .attribute l e n k
  | _ => mismatch

/-! ## Sequences and mappings -/

def restShape : Parser Shape := rememberedShape 1 <| oneOf [
  do
    let t ← mark "*"
    return .rest t.line (some (← captureTarget).text),
  do
    let t ← mark "*"
    discard (word "_")
    return .rest t.line none]

def sequenceItem : Parser Shape := oneOf [restShape, r.shape]

def sequenceItems : Parser (List Shape) := do
  let items ← separated "," (sequenceItem r)
  optionalComma
  return items

/-- A sequence of at least one item with a comma behind it. -/
def openSequence : Parser (List Shape) := do
  let first ← sequenceItem r
  comma
  return first :: (← optional (sequenceItems r)).getD []

def sequenceShape : Parser Shape := oneOf [
  do
    let t ← mark "["
    let items ← optional (sequenceItems r)
    discard (mark "]")
    return .sequence t.line (items.getD []),
  do
    let t ← mark "("
    let items ← optional (openSequence r)
    discard (mark ")")
    return .sequence t.line (items.getD [])]

def mappingKey : Parser Expr := oneOf [
  literal r,
  do
    let (line, v) ← singleton
    return .const line v,
  attributePath]

def mappingItem : Parser (Expr × Shape) := do
  let k ← mappingKey r
  discard (mark ":")
  return (k, ← r.shape)

def mappingRest : Parser String := do
  discard (mark "**")
  return (← captureTarget).text

def mappingShape : Parser Shape := do
  let t ← mark "\x7b"
  oneOf [
    do
      discard (mark "\x7d")
      return .mapping t.line [] [] none,
    do
      let rest ← mappingRest
      optionalComma
      discard (mark "\x7d")
      return .mapping t.line [] [] (some rest),
    do
      let items ← separated "," (mappingItem r)
      comma
      let rest ← mappingRest
      optionalComma
      discard (mark "\x7d")
      return .mapping t.line (items.map (·.1)) (items.map (·.2)) (some rest),
    do
      let items ← separated "," (mappingItem r)
      optionalComma
      discard (mark "\x7d")
      return .mapping t.line (items.map (·.1)) (items.map (·.2)) none]

/-! ## Objects of a class -/

def positionShapes : Parser (List Shape) := separated "," r.shape

def fieldShape : Parser (String × Shape) := do
  let t ← name
  discard (mark "=")
  return (t.text, ← r.shape)

def fieldShapes : Parser (List (String × Shape)) := separated "," (fieldShape r)

def objectShape : Parser Shape := oneOf [
  do
    let c ← dottedPath
    discard (mark "(")
    discard (mark ")")
    return .object c.line c [] [] [],
  do
    let c ← dottedPath
    discard (mark "(")
    let ps ← positionShapes r
    optionalComma
    discard (mark ")")
    return .object c.line c ps [] [],
  do
    let c ← dottedPath
    discard (mark "(")
    let fs ← fieldShapes r
    optionalComma
    discard (mark ")")
    return .object c.line c [] (fs.map (·.1)) (fs.map (·.2)),
  do
    let c ← dottedPath
    discard (mark "(")
    let ps ← positionShapes r
    comma
    let fs ← fieldShapes r
    optionalComma
    discard (mark ")")
    return .object c.line c ps (fs.map (·.1)) (fs.map (·.2)),
  explaining do
    discard dottedPath
    discard (mark "(")
    discard (optional do discard (positionShapes r); comma)
    discard (fieldShapes r)
    comma
    let late ← positionShapes r
    complainAt ((late.head?.map Shape.line).getD 0) .shapeAfterField]

/-! ## Shapes -/

def closedShape : Parser Shape := rememberedShape 2 <| oneOf [
  do
    let e ← literal r
    return .value e.line e,
  do
    let (line, v) ← singleton
    return .constant line v,
  do
    let t ← captureTarget
    return .any t.line (some t.text),
  do return .any (← word "_").line none,
  do
    let e ← attributePath
    notBare
    return .value e.line e,
  do
    discard (mark "(")
    let s ← r.shape
    discard (mark ")")
    return s,
  sequenceShape r,
  mappingShape r,
  objectShape r]

def eitherShape : Parser Shape := do
  let first ← closedShape r
  let more ← many do discard (mark "|"); closedShape r
  if more.isEmpty then return first else return .either first.line (first :: more)

def shape : Parser Shape := oneOf [
  do
    let s ← eitherShape r
    discard (word "as")
    return .named s.line s (← captureTarget).text,
  explaining <| oneOf [
    do
      discard (eitherShape r)
      discard (word "as")
      let t ← word "_"
      complainAt t.line .underscoreTarget,
    do
      discard (eitherShape r)
      discard (word "as")
      notAhead name
      let e ← r.expression
      complainAt e.line .shapeTarget],
  eitherShape r]

/-- What a case asks for; a sequence need not stand in brackets. -/
def shapes : Parser Shape := oneOf [
  do
    let line := (← peek).line
    return .sequence line (← openSequence r),
  shape r]

end NestShell.Code.Grammar

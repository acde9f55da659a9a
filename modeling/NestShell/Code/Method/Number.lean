import NestShell.Code.Argument
/-!
The methods of numbers, and numbers read from texts in any base.
-/
namespace NestShell.Code

open NestShell.Text

/-- The value of a digit in a base up to 36. -/
def baseDigit? (base : Nat) (c : Char) : Option Nat :=
  let n := c.toNat
  let d := if let some d := decimalValue? c then some d
    else if c.isLower then some (n - 87)
    else if c.isUpper then some (n - 55)
    else none
  d.filter (· < base)

/-- A sign before the rest of a numeral. -/
def readSign : List Char → Bool × List Char
  | '-' :: cs => (true, cs)
  | '+' :: cs => (false, cs)
  | cs => (false, cs)

/-- The base that a numeral's own mark names, and what follows the mark. -/
def readBaseMark (base : Nat) (cs : List Char) : Nat × List Char :=
  match cs with
  | '0' :: m :: r =>
    let named := match m.toLower with
      | 'x' => 16
      | 'o' => 8
      | 'b' => 2
      | _ => 0
    if named != 0 && (base == 0 || base == named) then
      (named, match r with
        | '_' :: r' => r'
        | _ => r)
    else (if base == 0 then 10 else base, cs)
  | _ => (if base == 0 then 10 else base, cs)

/-- The number that a text writes in a base; base 0 lets the text's mark decide. -/
def readInBase? (base : Nat) (s : String) : Option Int :=
  let (negative, cs) := readSign (trimBy isNumeralBlank s.toList)
  let (b, cs) := readBaseMark base cs
  let digits := cs.map fun c => if c == '_' then some none else (baseDigit? b c).map some
  match digits.mapM id with
  | some (some d :: rest) =>
    (more b d rest).map fun (n : Nat) => if negative then -(n : Int) else (n : Int)
  | _ => none
where
  more (b acc : Nat) : List (Option Nat) → Option Nat
    | [] => some acc
    | some d :: rest => more b (b * acc + d) rest
    | none :: some d :: rest => more b (b * acc + d) rest
    | none :: _ => none

/-- A float as a quotient in lowest terms. -/
def floatQuotient (x : Float) : Int × Int :=
  let (a, b) := floatRatio x.abs
  let g := max 1 (Nat.gcd a b)
  let n : Int := (a / g : Nat)
  (if x < 0 then -n else n, ((b / g : Nat) : Int))

/-- The bytes of a number, the last one first. -/
def littleBytes : Nat → Nat → List UInt8
  | 0, _ => []
  | width + 1, n => UInt8.ofNat (n % 256) :: littleBytes width (n / 256)

def ofBigBytes (bs : List UInt8) : Nat := bs.foldl (fun n b => n * 256 + b.toNat) 0

namespace Run

variable (engine : Engine)

def bytesOfInt (n : Int) (args : List Value) (keywords : List (String × Value)) : Run Value := do
  let values ← named "to_bytes" 0 ["length", "byteorder", "signed"] args keywords
  let width ← asCount engine ((values.getD 0 none).getD (.int 1))
  let order := (values.getD 1 none).getD (.str "big")
  let signed ← truth engine ((values.getD 2 none).getD (.bool false))
  if n < 0 && !signed then raise "OverflowError" "can't convert negative int to unsigned"
  let limit : Int := Int.pow 2 (8 * width)
  if n ≥ (if signed then limit / 2 else limit) || n < -(limit / 2) then
    raise "OverflowError" "int too big to convert"
  let bs := littleBytes width (n % limit).toNat
  match order with
  | .str "big" => return .bytes bs.reverse
  | .str "little" => return .bytes bs
  | _ => valueError "byteorder must be either 'little' or 'big'"

def intFromBytes (args : List Value) (keywords : List (String × Value)) : Run Value := do
  let values ← named "from_bytes" 1 ["bytes", "byteorder", "signed"] args keywords
  let bs ← match (values.getD 0 none).getD .none with
    | .bytes bs => pure bs
    | v => do
      let items ← engine.elements v
      items.mapM fun w => do return UInt8.ofNat (← asCount engine w)
  match (values.getD 1 none).getD (.str "big") with
  | .str "little" => return .int (ofBigBytes bs.reverse)
  | _ => return .int (ofBigBytes bs)

def intMethod (n : Int) (name : String) (args : List Value) (keywords : List (String × Value)) :
    Run Value := do
  let title := "int." ++ name
  match name with
  | "bit_length" => noArguments title args keywords; return .int (bitLength n.natAbs)
  | "bit_count" =>
    noArguments title args keywords
    return .int ((Nat.toDigits 2 n.natAbs).filter (· == '1')).length
  | "conjugate" => noArguments title args keywords; return .int n
  | "as_integer_ratio" => noArguments title args keywords; return .tuple [.int n, .int 1]
  | "to_bytes" => bytesOfInt engine n args keywords
  | _ => typeError (quoteText name ++ " is not supported")

def floatMethod (x : Float) (name : String) (args : List Value) (keywords : List (String × Value)) :
    Run Value := do
  let title := "float." ++ name
  match name with
  | "is_integer" =>
    noArguments title args keywords
    return .bool (!x.isInf && !x.isNaN && x.floor == x)
  | "conjugate" => noArguments title args keywords; return .float x
  | "as_integer_ratio" =>
    noArguments title args keywords
    if x.isNaN then valueError "cannot convert NaN to integer ratio"
    if x.isInf then raise "OverflowError" "cannot convert Infinity to integer ratio"
    let (a, b) := floatQuotient x
    return .tuple [.int a, .int b]
  | _ => typeError (quoteText name ++ " is not supported")

def complexMethod (re im : Float) (name : String) (args : List Value)
    (keywords : List (String × Value)) : Run Value := do
  match name with
  | "conjugate" =>
    noArguments ("complex." ++ name) args keywords
    return .complex re (-im)
  | _ => typeError (quoteText name ++ " is not supported")

/-- A complex number from its parts, each of which may be complex itself. -/
def makeComplex (args : List Value) (keywords : List (String × Value)) : Run Value := do
  let values ← named "complex" 0 ["real", "imag"] args keywords
  match values.getD 0 none, values.getD 1 none with
  | some (.str _), none => unsupported "complex numbers read from texts"
  | some (.str _), some _ => typeError "complex() can't take second arg if first is a string"
  | _, some (.str _) => typeError "complex() second arg can't be a string"
  | real, imaginary =>
    let first := real.getD (.int 0)
    let second := imaginary.getD (.int 0)
    match ← complex? first, ← complex? second with
    | some a, some b =>
      return .complex (if second matches .complex .. then a.re - b.im else a.re)
        (if first matches .complex .. then a.im + b.re else b.re)
    | none, _ =>
      typeError ("complex() first argument must be a string or a number, not " ++
        quoteText (← typeName first))
    | _, none =>
      typeError ("complex() second argument must be a number, not " ++
        quoteText (← typeName second))

/-- The whole part of a float. -/
def wholePart (x : Float) : Run Value := do
  if x.isNaN then valueError "cannot convert float NaN to integer"
  match floatToInt? x with
  | some n => return .int n
  | none => raise "OverflowError" "cannot convert float infinity to integer"

/-- The number that a text writes. -/
def intOfText (base : Int) (shownText s : String) : Run Value := do
  let malformed : Run Value := valueError ("invalid literal for int() with base " ++
    toString base ++ ": " ++ shownText)
  if base == 10 then
    match readInt s with
    | .ok n => return .int n
    | .error (.tooLong digits) => valueError (tooLongText digits)
    | .error .malformed => malformed
  else
    match readInBase? base.toNat s with
    | some n => return .int n
    | none => malformed

/-- A number made of a value. -/
def makeInt (args : List Value) (keywords : List (String × Value)) : Run Value := do
  let given := args.length + keywords.length
  if given > 2 then
    typeError ("int() takes at most 2 arguments (" ++ toString given ++ " given)")
  for (n, _) in keywords do
    if n != "base" then typeError (quoteText n ++ " is an invalid keyword argument for int()")
  let base? := (args[1]?).or (keywords.lookup "base")
  match args[0]?, base? with
  | none, none => return .int 0
  | none, some _ => typeError "int() missing string argument"
  | some v, some b =>
    let base ← asInt engine b
    if base != 0 && (base < 2 || base > 36) then
      valueError "int() base must be >= 2 and <= 36, or 0"
    match v with
    | .str s => intOfText base (quoted s) s
    | .bytes bs => intOfText base (quotedBytes bs) (String.ofList (bs.map fun b => Char.ofNat b.toNat))
    | _ => typeError "int() can't convert non-string with explicit base"
  | some v, none =>
    match v with
    | .int n => return .int n
    | .bool b => return .int (if b then 1 else 0)
    | .float x => wholePart x
    | .str s => intOfText 10 (quoted s) s
    | .bytes bs => intOfText 10 (quotedBytes bs) (String.ofList (bs.map fun b => Char.ofNat b.toNat))
    | _ =>
      match ← special? v "__int__", ← special? v "__index__" with
      | some f, _ | none, some f => engine.call f [v] []
      | none, none =>
        typeError ("int() argument must be a string, a bytes-like object or a real number, not " ++
          quoteText (← typeName v))

/-- A low line between digits is no part of the number. -/
def dropLowLines : List Char → Option (List Char)
  | a :: '_' :: b :: cs =>
    if a.isDigit && b.isDigit then (dropLowLines (b :: cs)).map (a :: ·) else none
  | '_' :: _ => none
  | [_, '_'] => none
  | c :: cs => (dropLowLines cs).map (c :: ·)
  | [] => some []

def makeFloat (args : List Value) (keywords : List (String × Value)) : Run Value := do
  noKeywords "float" keywords
  checkCount "float" 0 1 args
  match args with
  | [] => return .float 0
  | v :: _ =>
    match v, number? v with
    | _, some n => return .float (← toFloat n)
    | .str s, none =>
      match (dropLowLines (trimBy isBlank s.toList)).bind fun cs =>
          Decimal.read? (String.ofList cs) with
      | some x => return .float x
      | none => valueError ("could not convert string to float: " ++ quoted s)
    | _, none =>
      match ← special? v "__float__" with
      | some f => engine.call f [v] []
      | none =>
        typeError ("float() argument must be a string or a real number, not " ++
          quoteText (← typeName v))

/-- Rounds to a number of places; a half goes to the even neighbour. -/
def roundFloat (places : Int) (x : Float) : Run Value := do
  if x.isNaN || x.isInf then return .float x
  else if places ≥ 0 then
    match Decimal.read? (fixedPlaces places.toNat x.abs) with
    | some y => return .float (if x < 0 then -y else y)
    | none => return .float x
  else
    let (a, b) := floatRatio x.abs
    let unit : Nat := Nat.pow 10 places.natAbs
    let n := roundDivide a (b * unit) * unit
    let y := Float.ofNat n
    return .float (if x < 0 then -y else y)

def roundInt (places : Int) (n : Int) : Int :=
  if places ≥ 0 then n
  else
    let unit : Nat := Nat.pow 10 places.natAbs
    let m : Int := (roundDivide n.natAbs unit * unit : Nat)
    if n < 0 then -m else m

def makeRounded (args : List Value) (keywords : List (String × Value)) : Run Value := do
  let values ← named "round" 1 ["number", "ndigits"] args keywords
  let v := (values.getD 0 none).getD .none
  match v, (values.getD 1 none).getD .none with
  | .float x, .none =>
    if x.isNaN then valueError "cannot convert float NaN to integer"
    if x.isInf then raise "OverflowError" "cannot convert float infinity to integer"
    let (a, b) := floatRatio x.abs
    let n : Int := roundDivide a b
    return .int (if x < 0 then -n else n)
  | .float x, p => roundFloat (← asInt engine p) x
  | _, p =>
    match asCount? v, p with
    | some n, .none => return .int n
    | some n, _ => return .int (roundInt (← asInt engine p) n)
    | none, _ =>
      match ← special? v "__round__" with
      | some f => engine.call f (if p.isNone then [v] else [v, p]) []
      | none => typeError ("type " ++ (← typeName v) ++ " doesn't define __round__ method")

end Run

end NestShell.Code

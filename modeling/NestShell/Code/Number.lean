import NestShell.Code.Complex
import NestShell.Code.Engine
/-!
Arithmetic. Whole numbers have any size; division rounds down and the remainder has the sign of the
divisor. An operation of a whole number and a float is done in floats.
-/
namespace NestShell.Code

/-- `a · 2 ^ k` for whole `a`. -/
def shiftBy (a : Nat) (k : Int) : Nat := if k ≥ 0 then a <<< k.toNat else a >>> (-k).toNat

/-- The float nearest to a quotient of positive numbers: 66 bits of it are kept, the last of which
stands for all that follow. -/
def quotient (a b : Nat) : Float :=
  let k : Int := 66 - (Nat.log2 a - Nat.log2 b : Int)
  let (num, den) := if k ≥ 0 then (a <<< k.toNat, b) else (a, b <<< (-k).toNat)
  let q := num / den
  let q := if num % den == 0 then q else q ||| 1
  (Float.ofNat q).scaleB (-k)

def intQuotient (a b : Int) : Float :=
  if a == 0 then 0
  else
    let q := quotient a.natAbs b.natAbs
    if (a < 0) != (b < 0) then -q else q

/-- The remainder of floats, with the sign of the divisor. -/
def floatModulo (x y : Float) : Float :=
  let r := floatRemainder x y
  if r != 0 && (r < 0) != (y < 0) then r + y
  else if r == 0 then (if y < 0 then -0.0 else 0.0) else r
where
  /-- The exact remainder with the sign of the dividend. -/
  floatRemainder (x y : Float) : Float :=
    if y.isInf && !x.isInf then x
    else if x.isNaN || y.isNaN || x.isInf then 0.0 / 0.0
    else
      let (mx, ex) := parts x.abs
      let (my, ey) := parts y.abs
      let e := min ex ey
      let dividend : Nat := mx <<< (ex - e).toNat
      let divisor : Nat := my <<< (ey - e).toNat
      let r : Nat := dividend % divisor
      let f := (Float.ofNat r).scaleB e
      if x < 0 then -f else f
  parts (x : Float) : Nat × Int :=
    let bits := x.toBits.toNat
    let fraction : Nat := bits % Nat.pow 2 52
    let e : Nat := bits / Nat.pow 2 52 % 2048
    if e == 0 then (fraction, -1074) else (fraction + Nat.pow 2 52, (e : Int) - 1075)

def floatFloorDivide (x y : Float) : Float :=
  let m := floatModulo x y
  let q := (x - m) / y
  let f := q.floor
  if q - f > 0.5 then f + 1 else f

/-- The number of bits of a number. -/
def bitLength (n : Nat) : Nat := if n == 0 then 0 else Nat.log2 n + 1

namespace Run

def zeroDivision {α : Type} (message : String) : Run α := raise "ZeroDivisionError" message

/-- A whole number as a float. -/
def intToFloat (n : Int) : Run Float := do
  let x := Float.ofInt n
  if x.isInf then raise "OverflowError" "int too large to convert to float" else return x

def toFloat : Sum Int Float → Run Float
  | .inl n => intToFloat n
  | .inr x => return x

def intPower (a : Int) (b : Int) : Run Value := do
  if b ≥ 0 then return .int (Int.pow a b.toNat)
  else if a == 0 then zeroDivision "0.0 cannot be raised to a negative power"
  else return .float ((← intToFloat a).pow (← intToFloat b))

/-- The complex number that a value is; other numbers have no imaginary part. -/
def complex? (v : Value) : Run (Option Complex) := do
  match v with
  | .complex re im => return some ⟨re, im⟩
  | v =>
    match number? v with
    | some n => return some (.ofReal (← toFloat n))
    | none => return none

def ofComplex (c : Complex) : Value := .complex c.re c.im

def complexPower (a b : Complex) : Run Value := do
  match a.power? b with
  | some r =>
    if r.re.isInf || r.im.isInf then raise "OverflowError" "complex exponentiation"
    else return ofComplex r
  | none => zeroDivision "0.0 to a negative or complex power"

/-- A power of floats. One of a number below zero to a fraction is complex. -/
def floatPower (x y : Float) : Run Value := do
  if x == 0 && y < 0 then zeroDivision "0.0 cannot be raised to a negative power"
  if x < 0 && !x.isInf && !y.isInf && y.floor != y && !y.isNaN then
    return ← complexPower (.ofReal x) (.ofReal y)
  let r := x.pow y
  if r.isInf && !x.isInf && !y.isInf then
    raise "OverflowError" "(34, 'Numerical result out of range')"
  return .float r

/-- The result of an operation on bits, on numbers in two's complement. -/
def bitwise (f : Bool → Bool → Bool) (a b : Int) : Int :=
  let width := max (bitLength a.natAbs) (bitLength b.natAbs) + 1
  let modulus : Int := Int.pow 2 width
  let x := (a % modulus).toNat
  let y := (b % modulus).toNat
  let n := Nat.bitwise f x y
  if n ≥ Nat.pow 2 (width - 1) then (n : Int) - modulus else n

def intOp (op : BinaryOp) (a b : Int) : Run (Option Value) := do
  match op with
  | .add => return some (.int (a + b))
  | .subtract => return some (.int (a - b))
  | .multiply => return some (.int (a * b))
  | .divide =>
    if b == 0 then zeroDivision "division by zero"
    let q := intQuotient a b
    if q.isInf then raise "OverflowError" "integer division result too large for a float"
    return some (.float q)
  | .floorDivide =>
    if b == 0 then zeroDivision "integer division or modulo by zero"
    return some (.int (a.fdiv b))
  | .modulo =>
    if b == 0 then zeroDivision "integer modulo by zero"
    return some (.int (a.fmod b))
  | .power => return some (← intPower a b)
  | .bitAnd => return some (.int (bitwise (· && ·) a b))
  | .bitOr => return some (.int (bitwise (· || ·) a b))
  | .bitXor => return some (.int (bitwise (· != ·) a b))
  | .shiftLeft =>
    if b < 0 then valueError "negative shift count"
    return some (.int (a * Int.pow 2 b.toNat))
  | .shiftRight =>
    if b < 0 then valueError "negative shift count"
    return some (.int (a.fdiv (Int.pow 2 b.toNat)))
  | .matrix => return none

def floatOp (op : BinaryOp) (x y : Float) : Run (Option Value) := do
  match op with
  | .add => return some (.float (x + y))
  | .subtract => return some (.float (x - y))
  | .multiply => return some (.float (x * y))
  | .divide =>
    if y == 0 then zeroDivision "float division by zero"
    return some (.float (x / y))
  | .floorDivide =>
    if y == 0 then zeroDivision "float floor division by zero"
    return some (.float (floatFloorDivide x y))
  | .modulo =>
    if y == 0 then zeroDivision "float modulo"
    return some (.float (floatModulo x y))
  | .power => return some (← floatPower x y)
  | _ => return none

def complexOp (op : BinaryOp) (a b : Complex) : Run (Option Value) := do
  match op with
  | .add => return some (ofComplex (a.add b))
  | .subtract => return some (ofComplex (a.subtract b))
  | .multiply => return some (ofComplex (a.multiply b))
  | .divide =>
    match a.divide? b with
    | some q => return some (ofComplex q)
    | none => zeroDivision "complex division by zero"
  | .power => return some (← complexPower a b)
  | _ => return none

/-- An operation on numbers; `none` where it is not defined for them. Truth values stay truth
values under operations on bits. -/
def numberOp (op : BinaryOp) (a b : Value) : Run (Option Value) := do
  match a, b, op with
  | .bool p, .bool q, .bitAnd => return some (.bool (p && q))
  | .bool p, .bool q, .bitOr => return some (.bool (p || q))
  | .bool p, .bool q, .bitXor => return some (.bool (p != q))
  | _, _, _ =>
    match number? a, number? b with
    | some (.inl m), some (.inl n) => intOp op m n
    | some x, some y =>
      match op with
      | .bitAnd | .bitOr | .bitXor | .shiftLeft | .shiftRight | .matrix => return none
      | _ => floatOp op (← toFloat x) (← toFloat y)
    | _, _ =>
      match ← complex? a, ← complex? b with
      | some x, some y => complexOp op x y
      | _, _ => return none

end Run

end NestShell.Code

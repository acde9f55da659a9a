import NestShell.Code.Value
/-!
Which values are one key of a mapping: numbers of one value, equal constants, or one object.
-/
namespace NestShell.Code

/-! ## Numbers -/

/-- The number that a value is; truth values count as numbers. -/
def Run.number? : Value → Option (Sum Int Float)
  | .bool b => some (.inl (if b then 1 else 0))
  | .int n => some (.inl n)
  | .float x => some (.inr x)
  | _ => none

/-- A whole float as a number. -/
def floatToInt? (x : Float) : Option Int :=
  if x.isNaN || x.isInf then none
  else
    let bits := x.toBits.toNat
    let fraction : Nat := bits % Nat.pow 2 52
    let e : Nat := bits / Nat.pow 2 52 % 2048
    let n : Nat := if e < 1075 then (fraction + Nat.pow 2 52) >>> (1075 - e)
      else (fraction + Nat.pow 2 52) <<< (e - 1075)
    let n := if e == 0 then 0 else n
    some (if bits ≥ Nat.pow 2 63 then -(n : Int) else n)

/-- The order of a whole number and a float, exactly. -/
def compareIntFloat (n : Int) (x : Float) : Option Ordering :=
  if x.isNaN then none
  else if x.isInf then some (if x < 0 then .gt else .lt)
  else
    match floatToInt? x with
    | none => none
    | some t =>
      if n < t then some .lt
      else if n > t then some .gt
      else
        let fraction := x - truncated x
        some (if fraction > 0 then .lt else if fraction < 0 then .gt else .eq)
where
  truncated (x : Float) : Float := if x < 0 then x.ceil else x.floor

def compareFloats (x y : Float) : Option Ordering :=
  if x < y then some .lt else if x > y then some .gt else if x == y then some .eq else none

def compareNumbers : Sum Int Float → Sum Int Float → Option Ordering
  | .inl a, .inl b => some (compare a b)
  | .inl a, .inr y => compareIntFloat a y
  | .inr x, .inl b => (compareIntFloat b x).map Ordering.swap
  | .inr x, .inr y => compareFloats x y

/-- Whether a complex number is another number. -/
def isComplex (n : Sum Int Float) : Value → Bool
  | .complex re im => im == 0 && compareNumbers n (.inr re) == some .eq
  | _ => false

def equalComplex : Value → Value → Bool
  | .complex a x, .complex b y => a == b && x == y
  | _, _ => false

/-! ## Keys -/

mutual
/-- Whether two values are one key of a mapping: equal constants, or the same object. -/
def keyEqual : Value → Value → Bool
  | .tuple a, .tuple b => keysEqual a b
  | .proceed a, .proceed b => keyEqual a b
  | .breakout l a, .breakout m b => keyEqual l m && keyEqual a b
  | a, b =>
    match Run.number? a, Run.number? b with
    | some x, some y => compareNumbers x y == some .eq
    | some x, none => isComplex x b
    | none, some y => isComplex y a
    | none, none => equalComplex a b || a.same b

def keysEqual : List Value → List Value → Bool
  | [], [] => true
  | a :: as, b :: bs => keyEqual a b && keysEqual as bs
  | _, _ => false
end

end NestShell.Code

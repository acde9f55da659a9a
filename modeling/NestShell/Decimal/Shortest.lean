/-!
The shortest decimal of a binary floating-point number. A positive finite number is `m · 2^q`, and
the reals that round to it form an interval around it. For one digit, two digits and so on, the
two neighbours of the number on that decimal grid are tested; the first grid with a neighbour in
the interval wins, and of two such neighbours the nearer one.
-/
namespace NestShell.Decimal

/-- A positive number as a ratio, with the ratios that bound the reals rounding to it. All three
have one denominator. -/
structure Interval where
  low : Nat
  value : Nat
  high : Nat
  denominator : Nat
  closed : Bool

/-- The interval of `m · 2^q`; `narrow` says that the gap below is half the gap above. -/
def Interval.ofBinary (m : Nat) (q : Int) (narrow : Bool) : Interval :=
  let scale := Nat.pow 2 q.toNat
  { low := (if narrow then 4 * m - 1 else 4 * m - 2) * scale
    value := 4 * m * scale
    high := (4 * m + 2) * scale
    denominator := 4 * Nat.pow 2 (-q).toNat
    closed := m % 2 == 0 }

/-- The least `k` with `num / den < 10 ^ k`, found by counting. -/
def magnitude (num den : Nat) : Int :=
  if den ≤ num then ((toString (num / den)).length : Int)
  else
    let rec climb (fuel : Nat) (n : Nat) (k : Int) : Int :=
      match fuel with
      | 0 => k
      | fuel + 1 => if den ≤ n * 10 then k else climb fuel (n * 10) (k - 1)
    climb 400 num 0

/-- A decimal `digits · 10 ^ exponent`. -/
structure Scaled where
  digits : Nat
  exponent : Int
  deriving DecidableEq, Repr

/-- Compares a ratio with a point of a decimal grid: both sides with the common denominators
cleared. -/
def Scaled.sides (d : Scaled) (num den : Nat) : Nat × Nat :=
  (d.digits * Nat.pow 10 d.exponent.toNat * den, num * Nat.pow 10 (-d.exponent).toNat)

/-- Whether a decimal rounds to the number of an interval. -/
def Interval.holds (i : Interval) (d : Scaled) : Bool :=
  let low := d.sides i.low i.denominator
  let high := d.sides i.high i.denominator
  if i.closed then low.2 ≤ low.1 && high.1 ≤ high.2 else low.2 < low.1 && high.1 < high.2

/-- The decimal of `n` digits that rounds to the number, if there is one. -/
def Interval.withDigits? (i : Interval) (k : Int) (n : Nat) : Option Scaled :=
  let e := k - n
  let floor : Nat := i.value * Nat.pow 10 (-e).toNat / (i.denominator * Nat.pow 10 e.toNat)
  let below : Scaled := ⟨floor, e⟩
  let above : Scaled := ⟨floor + 1, e⟩
  match i.holds below, i.holds above with
  | true, true =>
    let (point, value) := (⟨2 * floor + 1, e⟩ : Scaled).sides (2 * i.value) i.denominator
    if value < point then some below
    else if point < value then some above
    else if floor % 2 == 0 then some below else some above
  | true, false => some below
  | false, true => some above
  | false, false => none

/-- The shortest decimal, searched up to seventeen digits. -/
def Interval.shortest (i : Interval) : Scaled :=
  let k := magnitude i.value i.denominator
  ((List.range 17).findSome? fun n => i.withDigits? k (n + 1)).getD ⟨0, 0⟩

/-- The parts of a positive finite number: its integer significand, its binary exponent, and
whether the gap below it is the narrower one. -/
def binaryParts (x : Float) : Nat × Int × Bool :=
  let bits := x.toBits.toNat
  let fraction : Nat := bits % Nat.pow 2 52
  let exponent : Nat := bits / Nat.pow 2 52 % 2048
  if exponent == 0 then (fraction, -1074, false)
  else (fraction + Nat.pow 2 52, (exponent : Int) - 1075, fraction == 0 && exponent > 1)

def shortest (x : Float) : Scaled :=
  let (m, q, narrow) := binaryParts x
  (Interval.ofBinary m q narrow).shortest

end NestShell.Decimal

import NestShell.Code.Key
import NestShell.Decimal.Notation
/-!
Complex numbers: pairs of floats, computed with by the rules for their parts.
-/
namespace NestShell.Code

structure Complex where
  re : Float
  im : Float

namespace Complex

def ofReal (x : Float) : Complex := ⟨x, 0⟩

def add (a b : Complex) : Complex := ⟨a.re + b.re, a.im + b.im⟩

def subtract (a b : Complex) : Complex := ⟨a.re - b.re, a.im - b.im⟩

def multiply (a b : Complex) : Complex :=
  ⟨a.re * b.re - a.im * b.im, a.re * b.im + a.im * b.re⟩

/-- The quotient, scaled by the greater part of the divisor; none where the divisor is zero. -/
def divide? (a b : Complex) : Option Complex :=
  if b.re.abs ≥ b.im.abs then
    if b.re.abs == 0 then none
    else
      let ratio := b.im / b.re
      let size := b.re + b.im * ratio
      some ⟨(a.re + a.im * ratio) / size, (a.im - a.re * ratio) / size⟩
  else if b.im.abs ≥ b.re.abs then
    let ratio := b.re / b.im
    let size := b.re * ratio + b.im
    some ⟨(a.re * ratio + a.im) / size, (a.im * ratio - a.re) / size⟩
  else some ⟨0.0 / 0.0, 0.0 / 0.0⟩

/-- A power by squaring: `factor` is the base raised to the bits seen so far. -/
def powerLoop : Nat → Nat → Complex → Complex → Complex
  | 0, _, _, result => result
  | fuel + 1, n, factor, result =>
    if n == 0 then result
    else
      powerLoop fuel (n / 2) (factor.multiply factor)
        (if n % 2 == 1 then result.multiply factor else result)

/-- A whole power; none where zero is raised to one below zero. -/
def wholePower? (a : Complex) (n : Int) : Option Complex :=
  let r := powerLoop 8 n.natAbs a (ofReal 1)
  if n > 0 then some r else divide? (ofReal 1) r

def size (a : Complex) : Float := (a.re * a.re + a.im * a.im).sqrt

/-- A power by the polar form; none where zero is raised to what is no real number above zero. -/
def polarPower? (a b : Complex) : Option Complex :=
  if b.re == 0 && b.im == 0 then some (ofReal 1)
  else if a.re == 0 && a.im == 0 then
    if b.im != 0 || b.re < 0 then none else some (ofReal 0)
  else
    let angle := Float.atan2 a.im a.re
    let length := a.size.pow b.re
    let (length, phase) :=
      if b.im == 0 then (length, angle * b.re)
      else (length / (angle * b.im).exp, angle * b.re + b.im * a.size.log)
    some ⟨length * phase.cos, length * phase.sin⟩

def power? (a b : Complex) : Option Complex :=
  if b.im == 0 && b.re.floor == b.re && b.re.abs ≤ 100 then
    wholePower? a (if b.re < 0 then -(b.re.abs.toUInt64.toNat : Int) else b.re.toUInt64.toNat)
  else polarPower? a b

end Complex

/-- A complex number; a real part of zero is left out. -/
def Complex.shown (re im : Float) : String :=
  let part (x : Float) : String :=
    let s := Decimal.write x
    if s.endsWith ".0" then (s.dropEnd 2).toString else s
  if re.toBits == 0 then part im ++ "j"
  else
    let shown := part im
    "(" ++ part re ++ (if shown.startsWith "-" then "" else "+") ++ shown ++ "j)"

end NestShell.Code

import NestShell.Decimal.Shortest
/-!
The written form of floating-point numbers: the fewest digits that read back, positional for
exponents from -4 up to 15 and with an exponent of at least two digits beyond, and always with a
point or an exponent. Numbers are read from digits, a point and an exponent.
-/
namespace NestShell.Decimal

/-- How a format writes numbers. -/
structure Format where
  leastPositional : Int
  mostPositional : Int
  exponentDigits : Nat

/-- The format of values shown at the prompt. -/
def plainFormat : Format := ⟨-4, 15, 2⟩

def zeros (n : Nat) : String := String.ofList (List.replicate n '0')

def dropTrailingZeros (ds : List Char) : List Char :=
  (ds.reverse.dropWhile (· == '0')).reverse

def Format.writeExponent (f : Format) (e : Int) : String :=
  let digits := toString e.natAbs
  "e" ++ (if e < 0 then "-" else "+") ++ zeros (f.exponentDigits - digits.length) ++ digits

/-- Writes the digits `ds`, the first of which has weight `10 ^ e`. -/
def Format.writeDigits (f : Format) (ds : List Char) (e : Int) : String :=
  if f.leastPositional ≤ e && e ≤ f.mostPositional then
    if e < 0 then "0." ++ zeros ((-e).toNat - 1) ++ String.ofList ds
    else
      let whole := e.toNat + 1
      let front := String.ofList (ds.take whole) ++ zeros (whole - ds.length)
      let back := ds.drop whole
      front ++ "." ++ (if back.isEmpty then "0" else String.ofList back)
  else
    let back := ds.drop 1
    String.ofList (ds.take 1) ++ (if back.isEmpty then "" else "." ++ String.ofList back) ++
      f.writeExponent e

/-- A floating-point number in its shortest form. -/
def Format.write (f : Format) (x : Float) : String :=
  if x.isNaN then "nan"
  else
    let sign := if x.toBits.toNat ≥ Nat.pow 2 63 then "-" else ""
    if x.isInf then sign ++ "inf"
    else if x == 0 then sign ++ "0.0"
    else
      let s := shortest x.abs
      let written := (toString s.digits).toList
      let e := s.exponent + written.length - 1
      sign ++ f.writeDigits (dropTrailingZeros written) e

def write (x : Float) : String := plainFormat.write x

/-- The number `digits · 10 ^ exponent`, rounded to the nearest float. -/
def ofScaled (digits : Nat) (exponent : Int) : Float :=
  if exponent > 400 && digits != 0 then 1.0 / 0.0
  else Float.ofScientific digits (exponent < 0) exponent.natAbs

def digitsValue (cs : List Char) : Nat := cs.foldl (fun n c => 10 * n + (c.toNat - 48)) 0

/-- Reads an exponent: a letter, an optional sign and digits. -/
def readExponent : List Char → Option Int
  | [] => some 0
  | c :: cs =>
    if c != 'e' && c != 'E' then none
    else
      let (negative, ds) := match cs with
        | '-' :: ds => (true, ds)
        | '+' :: ds => (false, ds)
        | ds => (false, ds)
      if ds.isEmpty || !ds.all Char.isDigit then none
      else
        let n : Int := digitsValue ds
        some (if negative then -n else n)

/-- Reads unsigned digits with at most one point and an optional exponent. -/
def readUnsigned (cs : List Char) : Option Float :=
  let whole := cs.takeWhile Char.isDigit
  let rest := cs.dropWhile Char.isDigit
  let (fraction, rest) := match rest with
    | '.' :: r => (r.takeWhile Char.isDigit, r.dropWhile Char.isDigit)
    | r => ([], r)
  if whole.isEmpty && fraction.isEmpty then none
  else (readExponent rest).map fun e =>
    ofScaled (digitsValue (whole ++ fraction)) (e - fraction.length)

/-- The float that a text writes, if it writes one. -/
def read? (s : String) : Option Float :=
  let (negative, cs) := match s.toList with
    | '-' :: cs => (true, cs)
    | '+' :: cs => (false, cs)
    | cs => (false, cs)
  let word := String.ofList (cs.map Char.toLower)
  let positive :=
    if word == "inf" || word == "infinity" then some (1.0 / 0.0)
    else if word == "nan" then some (0.0 / 0.0)
    else readUnsigned cs
  positive.map fun x => if negative then -x else x

end NestShell.Decimal

import NestShell.Text.Blank
import NestShell.Text.Letters
/-!
Integers read from text. Blanks around the number are dropped, a sign may stand in front, single
low lines may stand between digits, and the digits may be of any script.
-/
namespace NestShell.Text

/-- Blanks that may stand around a number; the information separators are not among them. -/
def isNumeralBlank (c : Char) : Bool :=
  isBlank c && !(28 ≤ c.toNat && c.toNat ≤ 31)

/-- The number that further digits extend `acc` to; a low line must stand between two digits. -/
def readDigitsAfter (acc : Nat) : List (Option Nat) → Option Nat
  | [] => some acc
  | some d :: rest => readDigitsAfter (10 * acc + d) rest
  | none :: some d :: rest => readDigitsAfter (10 * acc + d) rest
  | none :: _ => none

/-- A character of a numeral: a digit value, or `none` for a low line. -/
def numeralChar? (c : Char) : Option (Option Nat) :=
  if c == '_' then some none else (decimalValue? c).map some

/-- The number that unsigned decimal digits write. -/
def readNatural? (cs : List Char) : Option Nat :=
  match cs.mapM numeralChar? with
  | some (some d :: rest) => readDigitsAfter d rest
  | _ => none

/-- How a decimal integer text can fail to be read. -/
inductive NumeralFault where
  | malformed
  | tooLong (digits : Nat)
  deriving DecidableEq, Repr

/-- The most digits that are read from a text or written into one. -/
def digitLimit : Nat := 4300

/-- What is said of a numeral with too many digits. -/
def tooLongText (digits : Nat) : String :=
  "Exceeds the limit (" ++ toString digitLimit ++
    " digits) for integer string conversion: value has " ++ toString digits ++
    " digits; use sys.set_int_max_str_digits() to increase the limit"

def readSigned (cs : List Char) : Except NumeralFault Int :=
  match readNatural? cs with
  | none => .error .malformed
  | some n =>
    let digits := (cs.filter (· != '_')).length
    if digits > digitLimit then .error (.tooLong digits) else .ok n

/-- The integer that a text writes in decimal. -/
def readInt (s : String) : Except NumeralFault Int :=
  match trimBy isNumeralBlank s.toList with
  | '-' :: cs => (fun n => -n) <$> readSigned cs
  | '+' :: cs => readSigned cs
  | cs => readSigned cs

def int? (s : String) : Option Int := (readInt s).toOption

end NestShell.Text

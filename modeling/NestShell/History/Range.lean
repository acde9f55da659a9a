import NestShell.Text.Blank
import NestShell.Text.Letters
import NestShell.Text.Numeral
/-!
Ranges of history entries: one number, two numbers that both count, or two numbers the second of
which does not. Negative numbers count from the end.
-/
namespace NestShell.History

open NestShell.Text

structure Range where
  start : Int
  stop : Option Int := none
  exclusive : Bool := false
  deriving DecidableEq, Repr

namespace Range

/-- A number at the front of a text, and the rest. -/
def number? (cs : List Char) : Option (List Char × List Char) :=
  let (sign, rest) := match cs with
    | '-' :: r => (['-'], r)
    | _ => ([], cs)
  match rest.takeWhile isDecimalDigit with
  | [] => none
  | digits => some (sign ++ digits, rest.dropWhile isDecimalDigit)

/-- The texts of the two bounds. -/
def bounds? (text : String) : Option (List Char × Option (List Char × Bool)) :=
  match number? (trim text).toList with
  | some (start, []) => some (start, none)
  | some (start, '.' :: '.' :: '.' :: rest) => second start rest true
  | some (start, '.' :: '.' :: rest) => second start rest false
  | _ => none
where
  second (start rest : List Char) (exclusive : Bool) :
      Option (List Char × Option (List Char × Bool)) :=
    match number? rest with
    | some (stop, []) => some (start, some (stop, exclusive))
    | _ => none

/-- The range that a text writes; a number may be too long to be read. -/
def read (text : String) : Except NumeralFault (Option Range) :=
  match bounds? text with
  | none => .ok none
  | some (start, none) => do
    let a ← readInt (String.ofList start)
    return some { start := a }
  | some (start, some (stop, exclusive)) => do
    let a ← readInt (String.ofList start)
    let b ← readInt (String.ofList stop)
    return some { start := a, stop := some b, exclusive := exclusive }

def fromEnd (count : Nat) (i : Int) : Int := if i < 0 then i + count else i

/-- The first entry of a range and the one after its last, among `count` entries. -/
def slice (r : Range) (count : Nat) : Nat × Nat :=
  let start := fromEnd count r.start
  let stop := match r.stop with
    | none => start + 1
    | some b => if r.exclusive then fromEnd count b else fromEnd count b + 1
  (start.toNat, stop.toNat)

/-- The entries in a range. -/
def select {α : Type} (r : Range) (entries : List α) : List α :=
  let (start, stop) := r.slice entries.length
  (entries.take stop).drop start

end Range

end NestShell.History

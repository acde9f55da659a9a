import NestShell.Text.Blank
/-!
Character classes given by tables. A class is the list of run lengths of code points outside and
inside it in turn, the first run being outside; `inRuns` looks a code point up.
-/
namespace NestShell.Text

def digitValue (c : Char) : Nat := c.toNat - 48

/-- Reads decimal numbers that blanks separate. -/
def readNumbers (s : String) : List Nat :=
  (words s).map fun w => w.toList.foldl (fun n c => 10 * n + digitValue c) 0

/-- Whether the number lies in a run that counts as inside. -/
def inRuns (inside : Bool) : List Nat → Nat → Bool
  | [], _ => false
  | r :: rs, n => if n < r then inside else inRuns (!inside) rs (n - r)

end NestShell.Text

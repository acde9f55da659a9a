import NestShell.Text.Blank
/-!
Lines of a text. A line ends at any of ten boundary characters, and a carriage return followed by
a line feed counts as one boundary. Reading a file first turns every carriage return into a line
feed.
-/
namespace NestShell.Text

/-- The characters that end a line. -/
def isLineEnd (c : Char) : Bool :=
  let n := c.toNat
  (10 ≤ n && n ≤ 13) || (28 ≤ n && n ≤ 30) || n == 0x85 || n == 0x2028 || n == 0x2029

/-- The lines with their ends; the open line is held in reverse. -/
def linesFrom : List Char → List Char → List (List Char × List Char)
  | [], [] => []
  | open_, [] => [(open_.reverse, [])]
  | open_, '\r' :: '\n' :: cs => (open_.reverse, ['\r', '\n']) :: linesFrom [] cs
  | open_, c :: cs =>
    if isLineEnd c then (open_.reverse, [c]) :: linesFrom [] cs else linesFrom (c :: open_) cs

/-- The lines of a text without their ends. -/
def lines (s : String) : List String :=
  (linesFrom [] s.toList).map fun l => String.ofList l.1

/-- The lines of a text, each with its end. -/
def linesWithEnds (s : String) : List String :=
  (linesFrom [] s.toList).map fun l => String.ofList (l.1 ++ l.2)

def unifyLineEnds : List Char → List Char
  | [] => []
  | '\r' :: '\n' :: cs => '\n' :: unifyLineEnds cs
  | '\r' :: cs => '\n' :: unifyLineEnds cs
  | c :: cs => c :: unifyLineEnds cs

/-- What reading a text file gives: every line end that a carriage return takes part in becomes a
line feed. -/
def universalNewlines (s : String) : String := String.ofList (unifyLineEnds s.toList)

end NestShell.Text

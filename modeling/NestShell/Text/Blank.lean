/-!
Blank characters and the words between them. A blank is any character that separates words in
running text, ASCII or not. Trimming removes blanks, or any chosen class, at the ends only, and
`splitFirst` cuts a line into its first word and the rest.
-/
namespace NestShell.Text

/-- The Unicode characters that separate words, the four information separators included. -/
def isBlank (c : Char) : Bool :=
  let n := c.toNat
  (9 ≤ n && n ≤ 13) || (28 ≤ n && n ≤ 32) || n == 0x85 || n == 0xA0 || n == 0x1680 ||
    (0x2000 ≤ n && n ≤ 0x200A) || n == 0x2028 || n == 0x2029 || n == 0x202F || n == 0x205F ||
    n == 0x3000

def dropEndWhile (p : Char → Bool) (cs : List Char) : List Char :=
  (cs.reverse.dropWhile p).reverse

/-- Removes the characters of a class at both ends. -/
def trimBy (p : Char → Bool) (cs : List Char) : List Char :=
  dropEndWhile p (cs.dropWhile p)

def trimStart (s : String) : String := String.ofList (s.toList.dropWhile isBlank)

def trimEnd (s : String) : String := String.ofList (dropEndWhile isBlank s.toList)

def trim (s : String) : String := String.ofList (trimBy isBlank s.toList)

/-- Removes the listed characters at the end. -/
def trimEndOf (chars : List Char) (s : String) : String :=
  String.ofList (dropEndWhile chars.contains s.toList)

def trimStartOf (chars : List Char) (s : String) : String :=
  String.ofList (s.toList.dropWhile chars.contains)

/-- Removes the listed characters at both ends. -/
def trimOf (chars : List Char) (s : String) : String :=
  String.ofList (trimBy chars.contains s.toList)

def isAllBlank (s : String) : Bool := s.toList.all isBlank

/-- The pieces between separators, empty pieces dropped; the open piece is held in reverse. -/
def piecesFrom (p : Char → Bool) : List Char → List Char → List (List Char)
  | [], [] => []
  | open_, [] => [open_.reverse]
  | open_, c :: cs =>
    if p c then
      match open_ with
      | [] => piecesFrom p [] cs
      | _ => open_.reverse :: piecesFrom p [] cs
    else piecesFrom p (c :: open_) cs

/-- The words of a text: its maximal runs without blanks. -/
def words (s : String) : List String := (piecesFrom isBlank [] s.toList).map String.ofList

/-- The first word and what follows the blanks after it, both trimmed. -/
def splitFirst (line : String) : String × String :=
  let cs := trimBy isBlank line.toList
  let word := cs.takeWhile fun c => !isBlank c
  let rest := (cs.dropWhile fun c => !isBlank c).dropWhile isBlank
  (String.ofList word, String.ofList rest)

/-- Whether a text begins with another. -/
def startsWith (s start : String) : Bool := start.toList.isPrefixOf s.toList

def endsWith (s tail : String) : Bool := tail.toList.isSuffixOf s.toList

/-- Cuts at the first occurrence of a character, which is dropped. -/
def cutAt (sep : Char) (cs : List Char) : Option (List Char × List Char) :=
  match cs.span (· != sep) with
  | (_, []) => none
  | (before, _ :: after) => some (before, after)

/-- The pieces between occurrences of one character, empty pieces kept. -/
def splitOnChar (sep : Char) (s : String) : List String :=
  (s.toList.splitOn sep).map String.ofList

def countChar (c : Char) (s : String) : Nat := s.toList.count c

/-- Replaces each occurrence of one character. -/
def replaceChar (c : Char) (by_ : String) (s : String) : String :=
  String.join (s.toList.map fun d => if d == c then by_ else d.toString)

def containsChar (c : Char) (s : String) : Bool := s.toList.contains c

/-- Spaces after a text up to a width in characters. -/
def padEnd (width : Nat) (s : String) : String :=
  s ++ String.ofList (List.replicate (width - s.length) ' ')

/-- Spaces before a text up to a width in characters. -/
def padStart (width : Nat) (s : String) : String :=
  String.ofList (List.replicate (width - s.length) ' ') ++ s

end NestShell.Text

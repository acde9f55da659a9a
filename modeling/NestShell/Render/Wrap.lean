import NestShell.Text.Lines
/-!
Text broken into lines of a width. A line is broken before a word that does not fit; a word longer
than a line is cut. Blanks that reach past the width are dropped.
-/
namespace NestShell.Render

open NestShell.Text

/-- A word with the blanks after it; the first one also has those before it. -/
def wordsWithBlanks : Nat → List Char → List (List Char)
  | 0, _ => []
  | fuel + 1, cs =>
    let front := cs.takeWhile isBlank
    let rest := cs.dropWhile isBlank
    if rest.isEmpty then []
    else
      let word := rest.takeWhile fun c => !isBlank c
      let rest := rest.dropWhile fun c => !isBlank c
      (front ++ word ++ rest.takeWhile isBlank) ::
        wordsWithBlanks fuel (rest.dropWhile isBlank)

/-- Pieces of at most `width` characters. -/
def chunks : Nat → Nat → List Char → List (List Char)
  | 0, _, _ => []
  | fuel + 1, width, cs =>
    if cs.isEmpty then [] else cs.take width :: chunks fuel width (cs.drop width)

/-- Places words on lines; the open line is the first argument. -/
def placeWords (width : Nat) : List Char → List (List Char) → List (List Char)
  | line, [] => if line.isEmpty then [] else [line]
  | line, w :: ws =>
    let length := (dropEndWhile isBlank w).length
    if line.length + length ≤ width then placeWords width (line ++ w) ws
    else if length > width then
      let pieces := chunks (w.length + 1) width w
      (if line.isEmpty then [] else [line]) ++ pieces.dropLast ++
        placeWords width (pieces.getLastD []) ws
    else (if line.isEmpty then [] else [line]) ++ placeWords width w ws

/-- Drops blanks at the end as far as they reach past the width. -/
def cropEnd (width : Nat) (line : List Char) : List Char :=
  let blanks := (line.reverse.takeWhile isBlank).length
  (line.take (line.length - min blanks (line.length - width))).take width

/-- One line as lines of a width. -/
def wrapLine (width : Nat) (line : List Char) : List (List Char) :=
  match placeWords width [] (wordsWithBlanks (line.length + 1) line) with
  | [] => [cropEnd width line]
  | pieces => pieces.map (cropEnd width)

/-- A text as lines of a width. -/
def wrap (width : Nat) (text : String) : List String :=
  (splitOnChar '\n' text).flatMap fun l => (wrapLine width l.toList).map String.ofList

end NestShell.Render

import NestShell.Text.Blank
import NestShell.Text.LetterCase
import NestShell.Text.Letters
/-!
Finding one text in another, cutting a text at another, and the layout of words: padding, case and
tabs. Occurrences are counted from the left and do not overlap.
-/
namespace NestShell.Text

/-- Where a text first occurs. -/
def findIn? (part : List Char) : List Char → Option Nat
  | [] => if part.isEmpty then some 0 else none
  | c :: cs => if part.isPrefixOf (c :: cs) then some 0 else (findIn? part cs).map (· + 1)

/-- Where a text last occurs. -/
def findLast? (part cs : List Char) : Option Nat :=
  (findIn? part.reverse cs.reverse).map fun i => cs.length - i - part.length

def occursIn (part s : String) : Bool := (findIn? part.toList s.toList).isSome

/-- The pieces between the first `limit` occurrences of a text that is not empty. The open piece is
held in reverse; `skip` characters belong to the occurrence read last. -/
def cutFrom (part : List Char) : Nat → Nat → List Char → List Char → List (List Char)
  | _, _, open_, [] => [open_.reverse]
  | limit, skip + 1, open_, _ :: cs => cutFrom part limit skip open_ cs
  | 0, 0, open_, c :: cs => cutFrom part 0 0 (c :: open_) cs
  | limit + 1, 0, open_, c :: cs =>
    if part.isPrefixOf (c :: cs) then
      open_.reverse :: cutFrom part limit (part.length - 1) [] cs
    else cutFrom part (limit + 1) 0 (c :: open_) cs

/-- Cuts a text at the occurrences of another, at most `limit` of them. -/
def cutAll (part : List Char) (limit : Option Nat) (cs : List Char) : List (List Char) :=
  cutFrom part (limit.getD cs.length) 0 [] cs

/-- Cuts a text at the last occurrences of another. -/
def cutAllFromEnd (part : List Char) (limit : Option Nat) (cs : List Char) : List (List Char) :=
  ((cutAll part.reverse limit cs.reverse).map List.reverse).reverse

def occurrences (part cs : List Char) : Nat :=
  if part.isEmpty then cs.length + 1 else (cutAll part none cs).length - 1

/-- Puts one text in place of another, at most `limit` times; the empty text occurs before every
character and at the end. -/
def replaceIn (part by_ : List Char) (limit : Option Nat) (cs : List Char) : List Char :=
  if part.isEmpty then
    let n := limit.getD (cs.length + 1)
    let front := (cs.take n).flatMap fun c => by_ ++ [c]
    front ++ (if n > cs.length then by_ else []) ++ cs.drop n
  else by_.intercalate (cutAll part limit cs)

/-- The first `limit` words and the rest. -/
def wordsFrom : Nat → Nat → List Char → List (List Char)
  | 0, _, _ => []
  | fuel + 1, limit, cs =>
    match cs.dropWhile isBlank with
    | [] => []
    | rest =>
      match limit with
      | 0 => [rest]
      | limit + 1 =>
        rest.takeWhile (!isBlank ·) :: wordsFrom fuel limit (rest.dropWhile (!isBlank ·))

def wordsUpTo (limit : Nat) (cs : List Char) : List (List Char) := wordsFrom (cs.length + 1) limit cs

def wordsUpToFromEnd (limit : Nat) (cs : List Char) : List (List Char) :=
  ((wordsUpTo limit cs.reverse).map List.reverse).reverse

/-- The first letter of a word. -/
def titleChar (c : Char) : List Char :=
  match upperChar c with
  | [] => []
  | [d] => [d]
  | d :: ds => d :: ds.flatMap lowerChar

/-- The first letter of every word in upper case; a word goes on after a letter with case. What
comes before is reversed. -/
def titleFrom (before : List Char) : List Char → List Char
  | [] => []
  | c :: cs =>
    (if before.head?.any isCased then lowerBetween before cs c else titleChar c) ++
      titleFrom (c :: before) cs

def swapCaseFrom (before : List Char) : List Char → List Char
  | [] => []
  | c :: cs =>
    (if isUpperChar c then lowerBetween before cs c
      else if isLowerChar c then upperChar c else [c]) ++ swapCaseFrom (c :: before) cs

/-- Whether words, and only they, begin with letters in upper case. -/
def isTitleFrom (inWord seen : Bool) : List Char → Bool
  | [] => seen
  | c :: cs =>
    if isUpperChar c || isTitleChar c then !inWord && isTitleFrom true true cs
    else if isLowerChar c then inWord && isTitleFrom true true cs
    else isTitleFrom false seen cs

/-- Padding on both sides; an odd rest goes to the side that keeps the sum even. -/
def centered (width : Nat) (fill : Char) (cs : List Char) : List Char :=
  let n := cs.length
  if width ≤ n then cs
  else
    let pad := width - n
    let left := pad / 2 + (if pad % 2 == 1 && width % 2 == 1 then 1 else 0)
    List.replicate left fill ++ cs ++ List.replicate (pad - left) fill

/-- Leading zeros after a sign. -/
def zeroFilled (width : Nat) (cs : List Char) : List Char :=
  let zeros := List.replicate (width - cs.length) '0'
  match cs with
  | '+' :: r => '+' :: zeros ++ r
  | '-' :: r => '-' :: zeros ++ r
  | _ => zeros ++ cs

/-- Every tab as blanks up to the next column that is a multiple of `size`. -/
def expandTabsFrom (size column : Nat) : List Char → List Char
  | [] => []
  | '\t' :: cs =>
    let n := if size == 0 then 0 else size - column % size
    List.replicate n ' ' ++ expandTabsFrom size (column + n) cs
  | c :: cs =>
    c :: expandTabsFrom size (if c == '\n' || c == '\r' then 0 else column + 1) cs

end NestShell.Text

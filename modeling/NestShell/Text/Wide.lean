import NestShell.Text.Blank
import NestShell.Text.Utf8
/-!
Texts of any code points. Surrogates are code points but no characters, and a text with one of them
has no form in UTF-8.
-/
namespace NestShell.Text

inductive CodePoint where
  | char (c : Char)
  /-- The code point `0xD800 + n`. -/
  | surrogate (n : Fin 2048)
  deriving DecidableEq, Repr

namespace CodePoint

def char? : CodePoint → Option Char
  | .char c => some c
  | .surrogate _ => none

def isBlank : CodePoint → Bool
  | .char c => Text.isBlank c
  | .surrogate _ => false

end CodePoint

structure WideText where
  points : List CodePoint
  deriving DecidableEq, Repr

namespace WideText

def ofString (s : String) : WideText := ⟨s.toList.map .char⟩

/-- The text without the blanks at its ends. -/
def trim (t : WideText) : WideText :=
  ⟨((t.points.dropWhile CodePoint.isBlank).reverse.dropWhile CodePoint.isBlank).reverse⟩

end WideText

/-- Code points that are all characters, as a text. -/
def stringOf? (points : List CodePoint) : Option String :=
  (points.mapM CodePoint.char?).map String.ofList

namespace Utf8

/-- Surrogates in a text, the first of them at `position`, that cannot be encoded. -/
structure EncodeFault where
  position : Nat
  surrogates : List (Fin 2048)
  deriving DecidableEq, Repr

/-- The first surrogates of a text, as far as they stand together. -/
def encodeFault (points : List CodePoint) : EncodeFault where
  position := (points.takeWhile fun p => p.char?.isSome).length
  surrogates := together (points.dropWhile fun p => p.char?.isSome)
where
  together : List CodePoint → List (Fin 2048)
    | .surrogate n :: ps => n :: together ps
    | _ => []

/-- The report of a fault. -/
def EncodeFault.message (f : EncodeFault) : String :=
  let codec := "'utf-8' codec can't encode character"
  let cause := ": surrogates not allowed"
  match f.surrogates with
  | [n] =>
    codec ++ " '\\u" ++ String.ofList (Nat.toDigits 16 (0xD800 + n.val)) ++ "' in position " ++
      toString f.position ++ cause
  | ns =>
    codec ++ "s in position " ++ toString f.position ++ "-" ++
      toString (f.position + ns.length - 1) ++ cause

end Utf8

end NestShell.Text

import NestShell.Text.Lines
import NestShell.Text.Wide
/-!
The lines that were entered, oldest first and no more than a limit of them. Blank lines and a line
equal to the one before it are not kept.
-/
namespace NestShell

open NestShell.Text

/-- A kind of texts of which a history may be. Those of a session are strings; a store takes texts
of any code points. -/
class EntryText (α : Type) where
  ofString : String → α
  points : α → List CodePoint
  trim : α → α

instance : EntryText String where
  ofString := id
  points s := s.toList.map .char
  trim := Text.trim

instance : EntryText WideText where
  ofString := .ofString
  points := WideText.points
  trim := WideText.trim

structure HistoryOf (α : Type) where
  entries : List α := []
  limit : Nat
  /-- Where the entries are kept between sessions. -/
  path : Option String := none
  limit_pos : 0 < limit := by decide

/-- The history of a session. -/
abbrev History := HistoryOf String

namespace History

/-- The last elements of a list, at most `n` of them. -/
def lastOf {α : Type} (n : Nat) (xs : List α) : List α := xs.drop (xs.length - n)

/-- The entries that a file text holds. -/
def readEntries (limit : Nat) (text : String) : List String :=
  lastOf limit (((lines text).filter fun l => !isAllBlank l).map trimEnd)

/-- The limit that stands for a number: at least one entry is kept. -/
def limitOf (n : Int) : Nat := max 1 n.toNat

theorem limitOf_pos (n : Int) : 0 < limitOf n := by unfold limitOf; omega

variable {α : Type} [EntryText α]

/-- The entries as strings, if each of them is one. -/
def strings? (entries : List α) : Option (List String) :=
  entries.mapM fun e => stringOf? (EntryText.points e)

/-- The text in which entries are kept. -/
def fileText (entries : List String) : String := "\n".intercalate entries ++ "\n"

/-- The code points of that text, where entries need not be strings. -/
def filePoints (entries : List α) : List CodePoint :=
  entries.flatMap fun e => EntryText.points e ++ [.char '\n']

/-- A history of the entries of a file text, if there is one. -/
def ofText (path : Option String) (limit : Int) (text : Option String) : HistoryOf α where
  entries := ((text.map (readEntries (limitOf limit))).getD []).map EntryText.ofString
  limit := limitOf limit
  path := path
  limit_pos := limitOf_pos limit

end History

namespace HistoryOf

open NestShell.History

variable {α : Type} [EntryText α] [BEq α]

/-- A line as it is kept, if it is kept. -/
def entry? (h : HistoryOf α) (line : α) : Option α :=
  let text := EntryText.trim line
  if (EntryText.points text).isEmpty || h.entries.getLast? == some text then none else some text

def append (h : HistoryOf α) (line : α) : HistoryOf α :=
  match h.entry? line with
  | none => h
  | some text => { h with entries := lastOf h.limit (h.entries ++ [text]) }

end HistoryOf

end NestShell

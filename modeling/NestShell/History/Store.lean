import NestShell.Files.Tree
import NestShell.History.Basic
/-!
A history kept in a file. What cannot be read counts as empty, and what cannot be written is not
kept. An entry that has no form in UTF-8 is found out only when the file is empty already.
-/
namespace NestShell

open NestShell.Files NestShell.Text

namespace History

/-- Why no history can be opened. -/
inductive Fault where
  | unknownHome
  | nullByte
  deriving DecidableEq, Repr

def Fault.message : Fault → String
  | .unknownHome => "Could not determine home directory."
  | .nullByte => "embedded null byte"

variable {α : Type} [EntryText α]

/-- Opens the history of a file; an empty path stands for none. -/
def openAt (t : Tree) (homes : Homes) (path : Option String) (limit : Int) :
    Except Fault (HistoryOf α) :=
  match path.filter fun p => !p.isEmpty with
  | none => .ok (ofText none limit none)
  | some p =>
    match Path.expandPlain? homes p with
    | none => .error .unknownHome
    | some full =>
      match t.readText full with
      | .ok text => .ok (ofText (some full) limit (some text))
      | .error .nullByte => .error .nullByte
      | .error _ => .ok (ofText (some full) limit none)

end History

namespace HistoryOf

open NestShell.History

variable {α : Type} [EntryText α]

/-- Writes the entries to the history's file, where that is possible. The file is emptied before
the entries are encoded, and a fault in that is raised. -/
def save (h : HistoryOf α) (t : Tree) : Tree × Option Utf8.EncodeFault :=
  match h.path with
  | none => (t, none)
  | some path =>
    match t.makeDirectories (Path.directoryOf path) with
    | .error _ => (t, none)
    | .ok t' =>
      let bytes := (strings? h.entries).map fun entries => Utf8.encode (fileText entries)
      match t'.write path (bytes.getD []) with
      | .ok t'' =>
        (t'', if bytes.isSome then none else some (Utf8.encodeFault (filePoints h.entries)))
      | .error _ => (t', none)

/-- Appends a line, and saves where that added an entry. -/
def record [BEq α] (h : HistoryOf α) (t : Tree) (line : α) : HistoryOf α × Tree :=
  match h.entry? line with
  | none => (h, t)
  | some _ => (h.append line, ((h.append line).save t).1)

/-- The fault that appending a line raises. -/
def recordFault? [BEq α] (h : HistoryOf α) (t : Tree) (line : α) : Option Utf8.EncodeFault :=
  match h.entry? line with
  | none => none
  | some _ => ((h.append line).save t).2

end HistoryOf

end NestShell

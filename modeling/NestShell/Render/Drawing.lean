import NestShell.Code.View
import NestShell.Text.Columns
/-!
What is shown: texts and values as they are, where colours are off, and else as a library draws
them. The library is not part of the program, which only says what is to be drawn, and where.
-/
namespace NestShell.Render

open NestShell.Code NestShell.Text

/-- A library that draws on terminals. Widths are those of the terminal. -/
structure Drawing where
  bold (width : Nat) (text : String) : String
  italic (width : Nat) (text : String) : String
  /-- Source text in a language, with the numbers of its lines where the first one is given. -/
  source (width : Nat) (language : String) (start : Option Int) (code : String) : String
  /-- The language of a file. -/
  language (path code : String) : String
  value (width : Nat) (v : Value) : Run String
  /-- A text that is longer than a screen. -/
  page (color : Bool) (width : Nat) (text : String) : String

/-- Whether a text is paged: it is longer than a screen, and there is someone to page for. -/
def needsPager (flood pager terminal : Bool) (rows : Nat) (text : String) : Bool :=
  !flood && pager && terminal && (countChar '\n' text : Int) ≥ (rows : Int) - 1

/-- Source text without colours, its lines numbered where the first number is given. -/
def plainSource (start : Option Int) (code : String) : String :=
  match start with
  | some n => numberLines n code
  | none => code

/-- The language of a file; what the caller says it is goes first. -/
def Drawing.guess (drawing : Drawing) (path code : String) (override : Option String) : String :=
  match override.filter fun s => !s.isEmpty with
  | some s => s
  | none => drawing.language path code

end NestShell.Render

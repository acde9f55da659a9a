import NestShell.Program.Launch
import NestShell.Text.Blank
/-!
The help text of the program: how it is called, and its options in two columns.
-/
namespace NestShell.Program

open NestShell.Text

/-- Rows of parts with one space between them. The first row begins at column `column`, the others
at column `indent`, and a row takes parts as long as it ends at or before column `width`. -/
def rows (width indent : Nat) : Nat → List String → List String → List (List String)
  | _, row, [] => if row.isEmpty then [] else [row]
  | column, row, part :: rest =>
    let stop := column + part.length
    if stop > width && !row.isEmpty then
      row :: rows width indent (indent + part.length + 1) [part] rest
    else rows width indent (stop + 1) (row ++ [part]) rest

def blanks (n : Nat) : String := padEnd n ""

/-- The columns that a terminal leaves free at its edge. -/
def margin : Nat := 2

/-- How the program is called. -/
def callText (width : Nat) : String :=
  let parts := launchOptions.map fun o => "[" ++ o.withMetavar (o.forms.headD "") ++ "]"
  let front := "usage: "
  let whole := " ".intercalate (programName :: parts)
  if front.length + whole.length ≤ width then front ++ whole
  else if 4 * (front.length + programName.length) ≤ 3 * width then
    let indent := front.length + programName.length + 1
    let lines := (rows width indent front.length [] (programName :: parts)).map (" ".intercalate ·)
    front ++ ("\n" ++ blanks indent).intercalate lines
  else
    let lines := (rows width front.length front.length [] parts).map (" ".intercalate ·)
    front ++ ("\n" ++ blanks front.length).intercalate (programName :: lines)

/-- The column at which descriptions of options begin, at most. -/
def helpColumn : Nat := 24

/-- An option, and its description beside or below it. -/
def optionText (width : Nat) (o : LaunchOption) : String :=
  let column := min helpColumn (max (width - 20) 4)
  let title := ", ".intercalate (o.forms.map o.withMetavar)
  let lines := (rows (max (width - column) 11) 0 0 [] (words o.help)).map (" ".intercalate ·)
  let front :=
    if title.length + 4 ≤ column then padEnd column ("  " ++ title)
    else "  " ++ title ++ "\n" ++ blanks column
  front ++ ("\n" ++ blanks column).intercalate lines ++ "\n"

/-- The help text for a terminal of so many columns. -/
def helpText (columns : Nat) : String :=
  let width := columns - margin
  callText width ++ "\n\n" ++
    "\n".intercalate ((rows width 0 0 [] (words summary)).map (" ".intercalate ·)) ++
    "\n\noptions:\n" ++ String.join (launchOptions.map (optionText width))

end NestShell.Program

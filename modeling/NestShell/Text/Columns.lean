import NestShell.Text.Lines
/-!
Text laid out for the terminal: numbered lines and columns.
-/
namespace NestShell.Text

/-- Each line behind its number, counted from `start`, the numbers aligned to the last one. -/
def numberLines (start : Int) (text : String) : String :=
  match lines text with
  | [] => ""
  | ls =>
    let width := (toString (start + ls.length - 1)).length
    let row (l : String) (i : Nat) : String := padStart width (toString (start + i)) ++ ": " ++ l
    "\n".intercalate (ls.mapIdx fun i l => row l i)

/-- Rows of at most `n` items; `n` is at least one. -/
def rowsOf (n : Nat) (items : List String) : List (List String) :=
  match items with
  | [] => []
  | item :: rest =>
    (item :: rest.take (n - 1)) :: rowsOf n (rest.drop (n - 1))
  termination_by items.length
  decreasing_by
    simp only [List.length_drop, List.length_cons]
    omega

def cellWidth (items : List String) : Nat := items.foldl (fun w i => max w i.length) 0 + 2

/-- How many cells a line holds: as many as fit, but at least one. -/
def columnCount (width : Int) (cell : Nat) : Nat := (max 1 (width.fdiv cell)).toNat

/-- The items in equal columns on lines of the given width, without blanks at line ends. -/
def tablify (width : Int) (items : List String) : String :=
  let cell := cellWidth items
  let row (r : List String) : String := trimEnd (String.join (r.map (padEnd cell)))
  "\n".intercalate ((rowsOf (columnCount width cell) items).map row)

end NestShell.Text

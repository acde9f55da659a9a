import NestShell.Render.Drawing
import NestShell.Render.Language
import NestShell.Render.Wrap
/-!
A simple drawing: bold and slanted headings, coloured values, and pages whose rows are as wide as
the terminal. It takes every character for one column wide.
-/
namespace NestShell.Render

open NestShell.Code NestShell.Text

/-- A text between the code of a style and the code that ends it. -/
def coded (code text : String) : String :=
  if text.isEmpty then "" else "\x1b[" ++ code ++ "m" ++ text ++ "\x1b[0m"

/-- Control characters that move the cursor of a terminal. -/
def movesCursor (c : Char) : Bool :=
  c == '\x07' || c == '\x08' || c == '\x0b' || c == '\x0c' || c == '\r'

/-- A text in a style, each of its lines by itself. -/
def styled (code : String) (width : Nat) (text : String) : String :=
  let plain := String.ofList (text.toList.filter fun c => !movesCursor c)
  "\n".intercalate ((wrap width plain).map (coded code))

def bracket (s : String) : String := coded "1" s

/-- The parts of a value between brackets. -/
def bracketed (opening close : String) (parts : List String) (tail : String) : String :=
  bracket opening ++ ", ".intercalate parts ++ tail ++ bracket close

/-- A value in colours, its parts nested at most as deep as the fuel. -/
def coloured : Nat → Value → Run String
  | 0, v => Run.view v
  | fuel + 1, v =>
    match v with
    | .none => return coded "3;35" "None"
    | .bool b => return if b then coded "3;92" "True" else coded "3;91" "False"
    | .int _ => do return coded "1;36" (← Run.view v)
    | .float x => do
      let shown ← Run.view v
      return if x.isFinite then coded "1;36" shown else shown
    | .str _ | .bytes _ => do return coded "32" (← Run.view v)
    | .tuple vs => do
      return bracketed "(" ")" (← vs.mapM (coloured fuel)) (if vs.length == 1 then "," else "")
    | .ref a => do
      match ← Run.object a with
      | .list items => return bracketed "[" "]" (← items.toList.mapM (coloured fuel)) ""
      | .dict es =>
        let parts ← es.mapM fun (k, w) => do
          return (← coloured fuel k) ++ ": " ++ (← coloured fuel w)
        return bracketed "\x7b" "\x7d" parts ""
      | _ => Run.view v
    | _ => Run.view v

/-- How deep values are coloured. -/
def colourDepth : Nat := 50

/-- Drops the codes of styles. -/
def dropCodes : Bool → List Char → List Char
  | _, [] => []
  | true, c :: cs => dropCodes (c != 'm') cs
  | false, '\x1b' :: '[' :: cs => dropCodes true cs
  | false, c :: cs => c :: dropCodes false cs

def withoutCodes (s : String) : String := String.ofList (dropCodes false s.toList)

/-- A text in rows of a width. -/
def paged (color : Bool) (width : Nat) (text : String) : String :=
  let row (l : String) : List String :=
    let bare := withoutCodes l
    if bare.length ≤ width then [if color then l else bare] else wrap width bare
  String.join (((lines text).flatMap row).map (· ++ "\n"))

def terminal : Drawing where
  bold := styled "1"
  italic := styled "3"
  source _ _ := plainSource
  language path _ := fileLanguage path
  value _ v := do return (← coloured colourDepth v) ++ "\n"
  page := paged

end NestShell.Render

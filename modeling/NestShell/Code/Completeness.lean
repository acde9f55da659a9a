import NestShell.Code.Check
/-!
Whether a text typed so far is a whole entry. It is not while it only begins one: brackets or
strings are open, a backslash ends it, or a block may go on. A faulty text is whole, since more
lines would not mend it.
-/
namespace NestShell.Code

open NestShell.Text

/-- Whether all lines are blank or comments. -/
def isVoid (source : String) : Bool :=
  (splitOnChar '\n' source).all fun line =>
    match (trim line).toList with
    | [] => true
    | c :: _ => c == '#'

/-- Whether an entry can be read without fault. -/
def isEntry (text : String) : Bool :=
  match Grammar.readEntry text with
  | .ok ss => (Check.program ss).isOk
  | .error _ => false

/-- Whether a text needs no further lines. -/
def isComplete (source : String) : Bool :=
  if isVoid source || containsChar '\x00' source then true
  else if isEntry source then true
  else
    match Grammar.readEntry (source ++ "\n") with
    | .ok ss => !(Check.program ss).isOk
    | .error .incomplete => false
    | .error _ => true

end NestShell.Code

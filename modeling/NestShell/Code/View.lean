import NestShell.Code.Scope
/-!
Values and exceptions as the shell shows them. Showing never fails: where a value's own form does,
the failure is shown.
-/
namespace NestShell.Code

/-- The longest form that stands for a value in prompts and listings. -/
def clipLimit : Nat := 60

namespace Run

/-- The form of a value. -/
def view (v : Value) : Run String :=
  catchingOnly "Exception" (engine.shown v) fun e => do
    return "<unrepresentable " ++ (← typeName v) ++ ": " ++ (← engine.text (.ref e)) ++ ">"

/-- The form of a value where it is short and of one line, else its name or address. -/
def viewClip (v : Value) (limit : Int) : Run String := do
  let text ← view v
  if (text.length : Int) ≤ limit && !Text.containsChar '\n' text then return text
  else
    let kind ← typeName v
    match ← getAttr? engine v "__name__" with
    | some (.str n) => return "#<" ++ kind ++ " " ++ n ++ ">"
    | _ => return "#<" ++ kind ++ ":" ++ addressText (addressOf v) ++ ">"

/-- An exception's class and text. -/
def errorTitle (e : Nat) : Run String := do
  return (← typeName (.ref e)) ++ ": " ++ (← engine.text (.ref e))

/-- The place that a report of an exception ends with. -/
def errorPlace (e : Nat) : Run String := do
  match ← exceptionAt e with
  | none => return ""
  | some x =>
    if ← subclassOf x.cls (.type "SyntaxError") then
      let lineno := attr x "lineno"
      if ← truth engine lineno then
        let file := attr x "filename"
        let shownFile ← if ← truth engine file then engine.text file else pure evaluatedFile
        return "\nfrom " ++ shownFile ++ ":" ++ (← engine.text lineno)
      else return ""
    else
      match x.origin with
      | some (file, line) => return "\nfrom " ++ file ++ ":" ++ toString line
      | none => return ""

/-- The report of an exception. -/
def report (e : Nat) : Run String := do return (← errorTitle e) ++ (← errorPlace e)

end Run

end NestShell.Code

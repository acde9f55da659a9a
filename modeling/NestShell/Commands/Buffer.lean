import NestShell.History.Range
import NestShell.Shell.State
/-!
Commands on what was entered: the lines of a text that is not complete, and the history.
-/
namespace NestShell.Commands

open NestShell.Text NestShell.Shell DeskM

def runClearBuffer : DeskM Reply := do
  modify fun d => { d with pending := [] }
  puts "Input buffer cleared!"
  return .nothing

/-- Raises the exception for a number too long to be read. -/
def throwTooLong {α : Type} (digits : Nat) : DeskM α :=
  raise "ValueError" (tooLongText digits)

/-- The entries that can be replayed. The line that asks for them is the newest one and never
among them. -/
def replayable (history : Option History) (line : String) : List String :=
  match history with
  | none => []
  | some h => if h.entries.getLast? == some (trim line) then h.entries.dropLast else h.entries

def replayRange (ctx : Context) (text : String) : DeskM Reply := do
  match History.Range.read text with
  | .error (.tooLong digits) => throwTooLong digits
  | .error .malformed | .ok none =>
    putsError ("invalid history range: " ++ text)
    return .skip
  | .ok (some range) =>
    match range.select (replayable (← get).history ctx.line) with
    | [] =>
      putsError ("no history in range " ++ text)
      return .skip
    | selected =>
      modify fun d => { d with replay := d.replay ++ selected }
      return .nothing

def runHist (ctx : Context) : DeskM Reply := do
  if ctx.options.isGiven "replay" then replayRange ctx ((ctx.options.text? "replay").getD "")
  else
    let entries := ((← get).history.map (·.entries)).getD []
    pageTrimmed false (numberLines 0 ("\n".intercalate entries))
    return .nothing

end NestShell.Commands

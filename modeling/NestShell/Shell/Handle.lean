import NestShell.Code.Completeness
import NestShell.Shell.Dispatch
/-!
Handling one line in the top session: its command runs and its signal is obeyed, or, where it has no
command, it joins the text that is to be evaluated.
-/
namespace NestShell.Shell

open NestShell.Code NestShell.Text

def setStatus (n : Nat) : ShellM Unit := ShellM.modifyDesk fun d => { d with status := n }

/-- Shows a value and keeps it as the last result. -/
def showValue (v : Value) : ShellM Unit := do
  let s ← get
  ShellM.note s.stack.top (.shows v)
  ShellM.ofDesk do
    modify fun d => { d with lastResult := v }
    DeskM.ofRun (s.stack.top.scope.setLocal "_" v)
    DeskM.puts ("=> " ++ (← DeskM.rendered v))

/-- Shows the value of an evaluation. One that fails is reported. -/
def showEvaluated (evaluation : DeskM Value) : ShellM Unit := do
  let result : ShellM (Option Value) := do return some (← ShellM.ofDesk evaluation)
  let value ← tryCatch result fun
    | .evaluation e => do
      ShellM.ofDesk (DeskM.report e)
      setStatus 1
      return none
    | stop => throw stop
  match value with
  | none | some .none => return
  | some v => showValue v

/-- Evaluates texts as one, which is noted in the top session, and shows the value. -/
def evaluateTexts (texts : List String) : ShellM Unit := do
  let s ← get
  ShellM.note s.stack.top (.evaluates texts)
  showEvaluated (DeskM.evaluate s.stack.top.scope ("\n".intercalate texts))

/-- A line that no command has. -/
def handleUnmatched (line : String) : ShellM Unit := do
  let s ← get
  if !s.desk.evalUnmatched then
    ShellM.ofDesk (DeskM.puts ("No such command: " ++ (splitFirst line).1))
    setStatus 1
  else
    let pending := s.desk.pending ++ [line]
    ShellM.modifyDesk fun d => { d with pending := pending }
    ShellM.note s.stack.top .keeps
    if isComplete ("\n".intercalate pending) then
      ShellM.modifyDesk fun d => { d with pending := [] }
      evaluateTexts pending

/-- The text in which a level is told that no session has. -/
def InvalidLevel.report (f : InvalidLevel) : DeskM String := do
  return f.message (← DeskM.ofRun (Run.format engine f.level ""))

/-- Leaves sessions down to a level; tells whether there is such a level. -/
def leaveTo (level value : Value) : ShellM Bool := do
  let s ← get
  match s.stack.breakout level with
  | .ok stack =>
    set { s with stack := stack, desk := { s.desk with unwound := value } }
    ShellM.note s.stack.top (.leaves s.stack.sessions level value)
    return true
  | .error f =>
    ShellM.ofDesk do DeskM.puts (← f.report)
    setStatus 1
    return false

/-- Obeys what a line led to. Gives the signal that ends sessions, if there is one. -/
def obey : Outcome → ShellM (Option Signal)
  | .noSuchCommand line => do
    handleUnmatched line
    return none
  | .parseFailure reason _ => do
    ShellM.ofDesk (DeskM.putsError reason)
    setStatus 1
    return none
  | .handled (.proceed (some v)) => do
    showValue v
    return none
  | .handled (.breakout level value) => do
    return if ← leaveTo level value then some (.breakout level value) else none
  | .handled _ => return none

/-- Notes a failure if an exception has been reported since another one was the last. -/
def markFailure (before : Option Nat) : ShellM Unit :=
  ShellM.modifyDesk fun d => if d.lastException != before then { d with status := 1 } else d

/-- Obeys what a line led to. Once a session below has been left, or the input has ended, it is not
obeyed. -/
def obeyAt (depth : Nat) (outcome : Outcome) : ShellM (Option Signal) := do
  let s ← get
  if s.stack.depth < depth || s.desk.exhausted then return none else obey outcome

/-- Handles a line. -/
def handle (perform : Context → ShellM Reply) (line : String) : ShellM (Option Signal) := do
  let before ← get
  setStatus 0
  let outcome ← dispatchWith perform line
  markFailure before.desk.lastException
  obeyAt before.stack.depth outcome

end NestShell.Shell

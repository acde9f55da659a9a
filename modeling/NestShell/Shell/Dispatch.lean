import NestShell.Shell.State
import NestShell.Text.Words
/-!
Handing a line to its command: the command is found, the text after its word is read by the
command's schema, and the body runs. What goes wrong in a body is reported; only what ends a
program goes on. However the body ends, no text is left for the next one.
-/
namespace NestShell.Shell

open NestShell.Code NestShell.Text

/-- The tokens of the text after a command's word. Text that cannot be split is a fault for a
command with flags; for others its words are the tokens. -/
def tokensOf (c : Command) (text : String) : Except String (List String) :=
  let words := Words.split text
  if !Words.isFault words then .ok words
  else if c.options.isEmpty then .ok (Text.words text)
  else
    let fault := words.getLastD ""
    match cutAt ':' fault.toList with
    | some (_, reason) => .error (String.ofList reason)
    | none => .error fault

/-- What the text after a command's word says. -/
def readOptions (c : Command) (text : String) : Except String Options.Parsed := do
  let tokens ← tokensOf c text
  match Options.parse c.options tokens with
  | .ok p => .ok p
  | .error f => .error f.message

/-- Reports what stopped a body, unless it ends the program. -/
def recover (c : Command) : Stop → ShellM Signal
  | .evaluation e => do
    ShellM.ofDesk (DeskM.report e)
    return .skip
  | .raised e => ShellM.ofDesk do
    if ← DeskM.isA e "Exception" then
      modify fun d => { d with lastException := some e }
      DeskM.putsError ("Command '" ++ c.name ++ "' failed: " ++ (← DeskM.errorText e))
      return .skip
    else throw (.raised e)
  | stop => throw stop

/-- Runs the body of a command. -/
def performIn (perform : Context → ShellM Reply) (ctx : Context) : ShellM Signal :=
  tryCatch (do return (← perform ctx).toSignal ctx.command.keepsValue) (recover ctx.command)

/-- Runs the body of a command while the text after its word is at the desk. -/
def runBody (perform : Context → ShellM Reply) (ctx : Context) (remainder : String) :
    ShellM Signal := do
  ShellM.modifyDesk fun d => { d with trailing := remainder }
  ShellM.note ctx.stack.top (.runs ctx.command remainder)
  ShellM.afterwards (fun _ s => { s with desk := { s.desk with trailing := "" } })
    (performIn perform ctx)

/-- Hands a line to its command. -/
def dispatchWith (perform : Context → ShellM Reply) (line : String) : ShellM Outcome := do
  let s ← get
  match s.desk.registry.match? line with
  | none => return .noSuchCommand (trimEndOf ['\r', '\n'] line)
  | some m =>
    match readOptions m.command m.remainder with
    | .error reason => return .parseFailure reason m.command.name
    | .ok options =>
      if options.helpRequested then
        ShellM.ofDesk (DeskM.puts m.command.usageText)
        return .handled .skip
      else
        let ctx : Context := ⟨m.command, line, options, s.stack.top.scope, s.stack⟩
        return .handled (← runBody perform ctx m.remainder)

end NestShell.Shell

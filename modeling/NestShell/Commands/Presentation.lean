import NestShell.Shell.State
/-!
Commands that change how the shell looks.
-/
namespace NestShell.Commands

open NestShell.Shell DeskM

/-- Sets a style of prompts, or the standard one where that style is set. -/
def toggleStyle (style : PromptStyle) : DeskM Reply := do
  modify fun d =>
    { d with promptStyle := if d.promptStyle == style then .standard else style }
  return .nothing

def runToggleColor : DeskM Reply := do
  modify fun d => { d with color := !d.color }
  puts ("Syntax highlighting " ++ (if (← get).color then "on" else "off"))
  return .nothing

end NestShell.Commands

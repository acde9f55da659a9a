import NestShell.Commands.Buffer
import NestShell.Commands.Catalog
import NestShell.Commands.FileText
import NestShell.Commands.Game
import NestShell.Commands.Help
import NestShell.Commands.Listing
import NestShell.Commands.Presentation
import NestShell.Commands.Report
import NestShell.Commands.Source
import NestShell.Commands.Steps
import NestShell.Commands.System
/-!
What the bodies of commands do, and the shell whose commands do it.
-/
namespace NestShell.Commands

open NestShell.Shell NestShell.Command

/-- The built-in bodies that leave the sessions alone. -/
def runAtDesk (ctx : Context) : Builtin → DeskM Reply
  | .help => runHelp ctx
  | .alias => runAlias ctx
  | .clearBuffer => runClearBuffer
  | .hist => runHist ctx
  | .exitProgram => runExitProgram ctx
  | .pipInstall => runPipInstall ctx
  | .stat => runStat ctx
  | .gistSource => runGistSource ctx
  | .pkgCd => runPkgCd ctx
  | .toggleColor => runToggleColor
  | .simplePrompt => toggleStyle .simple
  | .shellMode => toggleStyle .shell
  | .nesting => runNesting ctx
  | .status => runStatus ctx
  | .whereami => runWhereami ctx
  | .version => runVersion
  | .exitAll => runExitAll ctx
  | .ls => runLs ctx
  | .catFile => runCatFile ctx
  | .evalFile => runEvalFile ctx
  | .cat => runCat ctx
  | .showDoc => runShowDoc ctx
  | .showSource => runShowSource ctx
  | .showCommand => runShowCommand ctx
  | .jumpTo => runJumpTo ctx
  | .exit => runExit ctx
  | .game => runGame ctx
  | .shellEscape => runShellEscape
  | .nest | .pydoc | .cd => return .nothing

def runBuiltin (back : Reentry) (ctx : Context) : Builtin → ShellM Reply
  | .cd => runCd back ctx
  | .nest => runNest back ctx
  | .pydoc => runPydoc back ctx
  | b => ShellM.ofDesk (runAtDesk ctx b)

/-- Runs the body of a command. -/
def bodies : Bodies := fun back ctx =>
  match ctx.command.body with
  | .builtin b => runBuiltin back ctx b
  | .steps ss => takeSteps back ctx ss
  | .absent => ShellM.ofDesk (DeskM.raise "NotImplementedError"
      "Command must implement run() or provide a handler")

/-- Runs the body of a line's command, with all ways back into the shell. -/
def perform : Context → ShellM Reply := performing bodies

end NestShell.Commands

namespace NestShell.Shell

open NestShell.Code

/-- Hands a line to its command. -/
def dispatch (line : String) : ShellM Outcome := dispatchWith Commands.perform line

/-- Handles a line in the top session. -/
def handleLine (line : String) : ShellM (Option Signal) := handle Commands.perform line

/-- Runs the lowest session to its end and gives the value that it ended with. -/
def run : ShellM Value := do sessionLoop Commands.perform (← get).stack.base lineFuel

/-- A shell whose lowest session evaluates in a scope. -/
def create (scope : Scope) (desk : Desk) : Except Stop State :=
  match DeskM.viewClip scope.receiver desk with
  | .ok label desk => .ok { stack := Stack.start scope label, desk := desk }
  | .error stop _ => .error stop

/-- A shell from which sessions can be started and lines be read. -/
def attach (s : State) : State := { s with desk := { s.desk with attached := true } }

end NestShell.Shell

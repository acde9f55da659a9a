import NestShell.Commands.Target
import NestShell.Shell.Loop
/-!
Commands that start, list and leave sessions.
-/
namespace NestShell.Commands

open NestShell.Code NestShell.Text NestShell.Shell DeskM

/-- Leaves the sessions above a level. -/
def leave (level : Nat) (v : Value) : Reply := .signal (.breakout (.int level) v)

/-- What the text after `cd` asks for. -/
inductive Destination where
  | nowhere
  | up
  | bottom
  | object (source : String)
  deriving DecidableEq, Repr

def Destination.ofText (text : String) : Destination :=
  match text with
  | "" => .nowhere
  | ".." => .up
  | "/" => .bottom
  | _ => .object text

/-- Starts a session, where that is possible. -/
def startAttached (back : Reentry) (receiver : Value) : ShellM Value := do
  if (← get).desk.attached then back.start receiver
  else ShellM.ofDesk (raise "RuntimeError" "no interactive shell is attached")

def runCd (back : Reentry) (ctx : Context) : ShellM Reply := do
  match Destination.ofText (← ShellM.ofDesk trailingText) with
  | .nowhere =>
    ShellM.ofDesk (puts "Must provide an object.")
    return .skip
  | .up => return leave ctx.stack.depth .none
  | .bottom => return if ctx.stack.depth > 0 then leave 0 .none else .skip
  | .object source =>
    let receiver ← ShellM.ofDesk (evaluate ctx.target source)
    return .value (← startAttached back receiver)

def runNest (back : Reentry) (ctx : Context) : ShellM Reply := do
  let _ ← startAttached back ctx.target.receiver
  return .nothing

def runNesting (ctx : Context) : DeskM Reply := do
  puts "Nesting status:"
  puts "--"
  for s in ctx.stack.sessions do
    let label ← sessionLabel s
    let note := if s.level == 0 then " (top level)" else ""
    puts (toString s.level ++ ". " ++ label ++ note)
  return .nothing

def runJumpTo (ctx : Context) : DeskM Reply := do
  let level := ctx.stack.depth
  match ctx.args with
  | [] =>
    puts ctx.command.usageText
    return .skip
  | text :: _ =>
    match int? text with
    | none =>
      putsError ("nesting level must be an integer: " ++ text)
      return .skip
    | some target =>
      if target == level then
        puts ("Already at nesting level " ++ toString level)
        return .skip
      else if 0 ≤ target && target < level then return leave target.toNat .none
      else
        puts ("Invalid nest level. Must be between 0 and " ++ toString (level - 1) ++ ". Got " ++
          toString target ++ ".")
        return .skip

def runExit (ctx : Context) : DeskM Reply := do
  return leave ctx.stack.depth (← evaluateTrailing ctx)

def runExitAll (ctx : Context) : DeskM Reply := do return leave 0 (← evaluateTrailing ctx)

/-- Ends the program. -/
def endProgram {α : Type} (status : Int) : DeskM α :=
  ofRun (Run.throwValue (.type "SystemExit") [.int status]
    (Names.ofList [("code", .int status)]))

def runExitProgram (ctx : Context) : DeskM Reply := do
  match ctx.args with
  | [] => endProgram 0
  | text :: _ =>
    match int? text with
    | some status => endProgram status
    | none =>
      putsError ("exit status must be an integer: " ++ text)
      return .nothing

end NestShell.Commands

import NestShell.Options.Parse
import NestShell.Shell.Desk
import NestShell.Shell.Stack
/-!
A shell: its open sessions and its desk. Most bodies work at the desk alone and only look at the
sessions; those that start and leave sessions, or hand lines to the shell, work on all of it.
-/
namespace NestShell.Shell

open NestShell.Code NestShell.Text

structure State where
  stack : Stack
  desk : Desk

abbrev ShellM := EStateM Stop State

/-- What a body knows of the line that called it. -/
structure Context where
  command : Command
  line : String
  options : Options.Parsed
  /-- Where the body evaluates. -/
  target : Scope
  /-- The sessions that were open when the body began. -/
  stack : Stack

def Context.args (c : Context) : List String := c.options.args

namespace ShellM

variable {α : Type}

/-- A computation at the desk. -/
def ofDesk (p : DeskM α) : ShellM α := fun s =>
  match p s.desk with
  | .ok a d => .ok a { s with desk := d }
  | .error e d => .error e { s with desk := d }

def modifyDesk (f : Desk → Desk) : ShellM Unit := modify fun s => { s with desk := f s.desk }

/-- Runs a computation and changes the state after it, however it ends; the change may depend on
what the computation gives. -/
def afterwards (f : Option α → State → State) (p : ShellM α) : ShellM α := fun s =>
  match p s with
  | .ok a s' => .ok a (f (some a) s')
  | .error e s' => .error e (f none s')

/-- Enters what happens in a session into the journal. -/
def note (session : Session) (event : Event) : ShellM Unit :=
  modify fun s => { s with stack := s.stack.note session event s.desk.waiting }

def catching (className : String) (p : ShellM α) (handler : Nat → ShellM α) : ShellM α :=
  tryCatch p fun
    | .raised e => do if ← ofDesk (DeskM.isA e className) then handler e else throw (.raised e)
    | stop => throw stop

end ShellM

namespace DeskM

/-! ## Showing values and texts -/

def bold (s : String) : DeskM String := do
  let d ← get
  return if d.color then d.outside.drawing.bold d.columns s else s

def italic (s : String) : DeskM String := do
  let d ← get
  return if d.color then d.outside.drawing.italic d.columns s else s

def rendered (v : Value) : DeskM String := do
  let d ← get
  ofRun (if d.color then d.outside.drawing.value d.columns v else Run.view v)

/-- Source text, with the numbers of its lines where the first one is given. -/
def highlighted (language : String) (start : Option Int) (code : String) : DeskM String := do
  let d ← get
  return if d.color then d.outside.drawing.source d.columns language start code
    else Render.plainSource start code

/-- Prints a text, through the pager where it is longer than a screen. -/
def page (flood : Bool) (text : String) : DeskM Unit := do
  let d ← get
  if Render.needsPager flood d.pager d.terminal d.rows text then
    write (d.outside.drawing.page d.color d.columns text)
  else puts text

/-- Prints a text without the line ends at its end. -/
def pageTrimmed (flood : Bool) (text : String) : DeskM Unit :=
  page flood (trimEndOf ['\n'] text)

/-! ## Reading lines -/

def logExchange (depth : Nat) (prompt : String) (answer : Option Input) (rest : List Input) :
    DeskM Unit :=
  modify fun d =>
    let e : Exchange :=
      ⟨d.machine.output.length, depth, d.status, d.pending.length, prompt, answer⟩
    { d with source := { d.source with inputs := rest, exchanges := e :: d.source.exchanges } }

/-- Raises the exception that tells the end of input. -/
def endOfInput {α : Type} (message : Option String) : DeskM α :=
  match message with
  | some s => raise "EOFError" s
  | none => raiseBare "EOFError"

/-- Prints a prompt, where prompts are printed. -/
def showPrompt (prompt : String) : DeskM Unit := do
  if (← get).source.showsPrompts then write prompt

/-- Asks the source for a line. -/
def request (depth : Nat) (prompt : String) : DeskM String := do
  let d ← get
  match d.source.inputs with
  | .line s :: rest =>
    logExchange depth prompt (some (.line s)) rest
    showPrompt prompt
    return s
  | .interrupt :: rest =>
    logExchange depth prompt (some .interrupt) rest
    showPrompt prompt
    raiseBare "KeyboardInterrupt"
  | [] =>
    match d.source.ending with
    | .awaiting => do
      showPrompt prompt
      throw .awaiting
    | .ended message =>
      logExchange depth prompt none []
      showPrompt prompt
      endOfInput message

/-- A line for a body: the next one to be replayed, or else one of the source. -/
def readLine (depth : Nat) (prompt : String) : DeskM String := do
  let d ← get
  match d.replay with
  | s :: rest =>
    set { d with replay := rest }
    return s
  | [] => if d.attached then request depth prompt else endOfInput none

end DeskM

end NestShell.Shell

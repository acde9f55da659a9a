import NestShell.Code.View
import NestShell.Command.Registry
import NestShell.History.Store
import NestShell.Render.Style
import NestShell.Shell.Signal
/-!
All that a shell holds beside its open sessions, and the computations that may change it. Such a
computation ends with a value or stops: at an exception of the language, at one that an evaluated
text raised, for want of a further line, or of fuel.
-/
namespace NestShell.Shell

open NestShell.Code NestShell.Text

inductive PromptStyle where
  | standard
  | simple
  | shell
  deriving DecidableEq, Repr

def PromptStyle.name : PromptStyle → String
  | .standard => "default"
  | .simple => "simple"
  | .shell => "shell"

def PromptStyle.ofName? : String → Option PromptStyle
  | "default" => some .standard
  | "simple" => some .simple
  | "shell" => some .shell
  | _ => none

/-- What a source of lines gives. -/
inductive Input where
  | line (s : String)
  | interrupt
  deriving DecidableEq, Repr

/-- What comes after the last line of a source: its end, or lines that are not known yet. -/
inductive Ending where
  | ended (message : Option String)
  | awaiting
  deriving DecidableEq, Repr

/-- One request for a line: how much was printed before it, where the shell stood, and the answer,
or nothing at the end. -/
structure Exchange where
  printed : Nat
  depth : Nat
  status : Nat
  pending : Nat
  prompt : String
  answer : Option Input

structure Source where
  inputs : List Input := []
  ending : Ending := .ended none
  /-- Whether the prompts are printed. -/
  showsPrompts : Bool := false
  /-- The requests, the latest first. -/
  exchanges : List Exchange := []

/-- What a program that is run leaves behind. -/
structure ProgramResult where
  status : Int
  output : String
  errors : String

/-- How the world outside the shell answers. -/
structure Outside where
  secret : Int := 3
  /-- The status that stands for every run of a system command. -/
  shellStatus : Option Int := none
  /-- The result that stands for every run of a program; nothing where there is no program. -/
  program : Option ProgramResult := none
  drawing : Render.Drawing := Render.terminal

/-- What was asked of the world outside. -/
inductive Call where
  | random (low high : Int)
  | systemCommand (line : String)
  /-- A line for the system's command interpreter, with or without its output being kept. -/
  | commandLine (line : String) (kept : Bool)
  | program (words : List String) (input : String)

structure Desk where
  machine : Machine := {}
  files : Files.Tree := {}
  /-- The variables of the environment. -/
  «variables» : List (String × String) := []
  registry : Registry := {}
  history : Option History := none
  promptStyle : PromptStyle := .standard
  /-- Whether lines without a command are evaluated. -/
  evalUnmatched : Bool := true
  color : Bool := true
  pager : Bool := true
  /-- Whether output goes to a terminal. -/
  terminal : Bool := false
  lastResult : Value := .none
  lastException : Option Nat := none
  /-- The text after the word of the command that runs. -/
  trailing : String := ""
  /-- The lines of a text that is not complete yet. -/
  pending : List String := []
  /-- Lines that are taken before those of the source. -/
  replay : List String := []
  /-- Whether the source has ended. -/
  exhausted : Bool := false
  /-- Whether sessions can be started and lines be read. -/
  attached : Bool := false
  /-- Zero if the last line was handled without a failure. -/
  status : Nat := 0
  /-- Lines that a backslash joins to the next one. -/
  continuation : List String := []
  /-- The value that the session which ended last carried. -/
  unwound : Value := .none
  source : Source := {}
  outside : Outside := {}
  /-- What was asked of the world outside, the latest first. -/
  calls : List Call := []
  /-- The program that runs packages. -/
  interpreter : String := "/usr/bin/python3"
  languageVersion : String := "3.11"
  /-- Where packages are looked for. -/
  packageRoot : Files.Location := []

/-- The machine as its programs find it: contexts of commands read the text at the desk. -/
def Desk.lent (d : Desk) : Machine := { d.machine with trailing := d.trailing }

inductive Stop where
  | raised (exception : Nat)
  /-- An exception that an evaluated text raised. -/
  | evaluation (exception : Nat)
  | awaiting
  | outOfFuel

abbrev DeskM := EStateM Stop Desk

namespace DeskM

variable {α : Type}

/-- Runs a computation of the machine. -/
def ofRun (p : Run α) : DeskM α := fun d =>
  match p d.lent with
  | .ok a m => .ok a { d with machine := m }
  | .error (.raised e) m => .error (.raised e) { d with machine := m }
  | .error .outOfFuel m => .error .outOfFuel { d with machine := m }

def write (s : String) : DeskM Unit :=
  modify fun d => { d with machine := { d.machine with output := d.machine.output ++ s } }

/-- Prints a text as whole lines. -/
def puts (s : String) : DeskM Unit := write (if endsWith s "\n" then s else s ++ "\n")

def putsError (message : String) : DeskM Unit := puts ("error: " ++ message)

def raise (className message : String) : DeskM α := ofRun (Run.raise className message)

def raiseBare (className : String) : DeskM α := ofRun (Run.raiseBare className)

/-- Whether an exception is of a class. -/
def isA (e : Nat) (className : String) : DeskM Bool :=
  ofRun do Run.subclassOf (← Run.exceptionClass e) (.type className)

/-- Handles exceptions of one class. -/
def catching (className : String) (p : DeskM α) (handler : Nat → DeskM α) : DeskM α :=
  tryCatch p fun
    | .raised e => do if ← isA e className then handler e else throw (.raised e)
    | stop => throw stop

def view (v : Value) : DeskM String := ofRun (Run.view v)

def viewClip (v : Value) : DeskM String := ofRun (Run.viewClip v clipLimit)

/-- The text of an exception. -/
def errorText (e : Nat) : DeskM String := ofRun (engine.text (.ref e))

/-- Evaluates a text. An exception that it raises is one with a text of its own. -/
def evaluate (scope : Scope) (source : String) : DeskM Value := do
  match ← ofRun (scope.evaluate source) with
  | .value v => return v
  | .failed e =>
    let _ ← ofRun (Run.errorTitle e)
    throw (.evaluation e)

/-- Shows an exception that an evaluated text raised. -/
def report (e : Nat) : DeskM Unit := do
  modify fun d => { d with lastException := some e }
  puts (← ofRun (Run.report e))

def ask (c : Call) : DeskM Unit := modify fun d => { d with calls := c :: d.calls }

end DeskM

namespace Desk

/-- The number of lines and texts that wait to be joined by another. -/
def waiting (d : Desk) : Nat := d.pending.length + d.continuation.length

def environment? (d : Desk) (name : String) : Option String := d.«variables».lookup name

/-- The home directories, one's own as the environment says. -/
def homes (d : Desk) : Files.Homes where
  own := (d.environment? "HOME").getD "/root"
  others := [("root", "/root")]

/-- A measure of the terminal; the environment may say otherwise. -/
def measure (d : Desk) (name : String) (default : Nat) : Nat :=
  match (d.environment? name).bind int? with
  | some n => if n > 0 then n.toNat else default
  | none => default

def columns (d : Desk) : Nat := d.measure "COLUMNS" 100

def rows (d : Desk) : Nat := d.measure "LINES" 24

end Desk

end NestShell.Shell

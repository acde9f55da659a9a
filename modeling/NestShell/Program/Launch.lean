import NestShell.Text.LetterCase
/-!
The options with which the program is launched, in the order in which help lists them.
-/
namespace NestShell.Program

open NestShell.Text

inductive LaunchKey where
  | help
  | logLevel
  | command
  | historyFile
  | historyLimit
  | startupFile
  | noStartup
  | noColor
  | noPager
  | simplePrompt
  | strictCommands
  deriving DecidableEq, Repr

structure LaunchOption where
  key : LaunchKey
  /-- The spellings, dashes included. -/
  forms : List String
  /-- The name of the option's value in usage texts, where it takes one. -/
  metavar : Option String := none
  help : String
  deriving DecidableEq, Repr

namespace LaunchOption

def takesValue (o : LaunchOption) : Bool := o.metavar.isSome

/-- All spellings, as reports name the option. -/
def title (o : LaunchOption) : String := "/".intercalate o.forms

/-- A spelling, and the name of the value after it. -/
def withMetavar (o : LaunchOption) (form : String) : String :=
  match o.metavar with
  | some m => form ++ " " ++ m
  | none => form

end LaunchOption

def programName : String := "burrow"

def summary : String := "burrow interactive Python shell"

def launchOptions : List LaunchOption := [
  ⟨.help, ["-h", "--help"], none, "show this help message and exit"⟩,
  ⟨.logLevel, ["--log-level"], some "LOG_LEVEL", "Logging level (default WARNING)"⟩,
  ⟨.command, ["-c", "--command"], some "COMMAND",
    "Execute a single line non-interactively (quote the command string)"⟩,
  ⟨.historyFile, ["--history"], some "HISTORY", "Path to the input history file"⟩,
  ⟨.historyLimit, ["--history-limit"], some "HISTORY_LIMIT",
    "Maximum number of history entries kept"⟩,
  ⟨.startupFile, ["--rc"], some "RC", "Startup script run before the first prompt"⟩,
  ⟨.noStartup, ["--no-rc"], none, "Do not run the startup script"⟩,
  ⟨.noColor, ["--no-color"], none, "Disable syntax highlighting"⟩,
  ⟨.noPager, ["--no-pager"], none, "Never page long output"⟩,
  ⟨.simplePrompt, ["--simple-prompt"], none, "Start with the simple prompt"⟩,
  ⟨.strictCommands, ["--strict-commands"], none,
    "Report unknown commands instead of evaluating them as Python"⟩]

/-- Every spelling with its option. -/
def launchForms : List (String × LaunchOption) :=
  launchOptions.flatMap fun o => o.forms.map fun f => (f, o)

/-- The option of a spelling. -/
def formOption? (form : String) : Option LaunchOption := launchForms.lookup form

end NestShell.Program

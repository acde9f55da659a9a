import NestShell.Command.Basic
import NestShell.Table
/-!
The commands of a shell, in the order in which their names were first registered, and the aliases
of their names. Registering a command again keeps its place and its aliases.
-/
namespace NestShell

open NestShell.Text

structure Registry where
  commands : List Command := []
  aliases : List (String × String) := []

namespace Registry

/-- Puts a command in the place of the one with its name, or last. -/
def put (c : Command) : List Command → List Command
  | [] => [c]
  | d :: rest => if d.name == c.name then c :: rest else d :: put c rest

def find? (r : Registry) (name : String) : Option Command := r.commands.find? (·.name == name)

def hasCommand (r : Registry) (name : String) : Bool := (r.find? name).isSome

/-- The name of the command that a name or an alias stands for. -/
def canonical? (r : Registry) (name : String) : Option String :=
  if r.hasCommand name then some name
  else (r.aliases.lookup name).filter r.hasCommand

/-- The command that a name or an alias stands for; the empty name stands for none. -/
def lookup (r : Registry) (name : String) : Option Command :=
  ((r.canonical? name).filter fun n => !n.isEmpty).bind r.find?

/-- What a name stands for where an alias is made. -/
def targetOf (r : Registry) (name : String) : String := (r.aliases.lookup name).getD name

/-- Makes an alias of a command, or of the command that another alias stands for. Nothing is made
where there is no such command. -/
def alias? (r : Registry) (name canonical : String) : Option Registry :=
  let target := r.targetOf canonical
  if !r.hasCommand target then none
  else if name == target then some { r with aliases := Table.erase name r.aliases }
  else some { r with aliases := Table.set name target r.aliases }

def unalias (r : Registry) (name : String) : Registry :=
  { r with aliases := Table.erase name r.aliases }

def isAlias (r : Registry) (name : String) : Bool := (r.aliases.lookup name).isSome

/-- Registers a command and the aliases that it declares. Its name is no alias any more. -/
def register (r : Registry) (c : Command) : Registry :=
  let start : Registry := ⟨put c r.commands, Table.erase c.name r.aliases⟩
  c.aliases.foldl (fun r a => (r.alias? a c.name).getD r) start

/-- Removes a command and its aliases. -/
def remove (r : Registry) (name : String) : Registry :=
  match r.canonical? name with
  | none => r
  | some n => ⟨r.commands.filter (·.name != n), r.aliases.filter (·.2 != n)⟩

def aliasesFor (r : Registry) (name : String) : List String :=
  (r.aliases.filter fun e => some e.2 == r.canonical? name).map (·.1)

/-- The commands that are listed. -/
def listed (r : Registry) (withHidden : Bool) : List Command :=
  r.commands.filter fun c => withHidden || !c.hidden

/-- The commands that have patterns. -/
def patterns (r : Registry) : List Command := r.commands.filter (·.pattern.isSome)

def names (r : Registry) : List String := r.commands.map (·.name) ++ r.aliases.map (·.1)

/-- A line's command, the line's first word, and what is left for the command. -/
structure Match where
  command : Command
  word : String
  remainder : String

/-- The command of a line: the one that its first word names, or else the first one whose pattern
accepts the line. -/
def match? (r : Registry) (line : String) : Option Match :=
  let stripped := trim line
  if stripped.isEmpty then none
  else
    let (word, remainder) := splitFirst stripped
    match r.lookup word with
    | some c => some ⟨c, word, remainder⟩
    | none => r.patterns.findSome? fun c => (c.matchPattern? stripped).map fun rest => ⟨c, word, rest⟩

end Registry

end NestShell

import NestShell.Command.Body
import NestShell.Options.Schema
import NestShell.Pattern.Match
/-!
Commands: how one is described, which lines a pattern of its own accepts, and what it does.
-/
namespace NestShell

open NestShell.Text

structure Command where
  name : String
  description : String := ""
  aliases : List String := []
  options : Options.Schema := {}
  usage : String := ""
  hidden : Bool := false
  /-- A program or package without which the command does not work. -/
  requires : Option String := none
  /-- Whether the value that the body gives is shown. -/
  keepsValue : Bool := false
  pattern : Option Pattern := none
  displayName : Option String := none
  body : Command.Body := .absent

namespace Command

/-- A text that is there and has characters. -/
def given? (s : Option String) : Option String := s.filter fun t => !t.isEmpty

def listingName (c : Command) : String := (given? c.displayName).getD c.name

/-- The command's line in the list of commands; `met` tells whether what it requires is there. -/
def helpLine (c : Command) (aliases : List String) (met : Bool) : String :=
  let name :=
    if aliases.isEmpty then c.listingName
    else c.listingName ++ " (" ++ ", ".intercalate aliases ++ ")"
  let note := match given? c.requires with
    | some r => if met then "" else " (requires " ++ r ++ ")"
    | none => ""
  trimEnd (padEnd 28 name ++ " " ++ c.description ++ note)

def banner (c : Command) : String :=
  if c.usage.isEmpty then "Usage: " ++ c.name else c.usage

def usageText (c : Command) : String :=
  if c.options.isEmpty then c.banner else c.options.usage c.banner

/-- What is left of a line that the command's pattern accepts: its first group, or where it has no
groups all after the match. -/
def matchPattern? (c : Command) (line : String) : Option String := do
  let p ← c.pattern
  let m ← p.matchStart? line
  if p.groups == 0 then some (trim (String.ofList (line.toList.drop m.index)))
  else some ((m.group? line 1).getD "")

end Command

end NestShell

import NestShell.Shell.Package
import NestShell.Shell.State
/-!
Commands about commands: what there is, and which aliases they have.
-/
namespace NestShell.Commands

open NestShell.Text NestShell.Shell DeskM

/-- The programs that are found. -/
def knownPrograms : List String := ["pip"]

/-- Whether what a command requires is there: a program or a package. -/
def requirementMet (d : Desk) (c : Command) : Bool :=
  match Command.given? c.requires with
  | none => true
  | some r => knownPrograms.contains r || (Package.find? d.files d.packageRoot r).isSome

def helpLine (d : Desk) (c : Command) (aliases : List String) : String :=
  c.helpLine aliases (requirementMet d c)

def helpOn (name : String) : DeskM Unit := do
  let d ← get
  match d.registry.lookup name with
  | none => puts ("No such command: " ++ name ++ ".")
  | some c =>
    puts (c.listingName ++ ": " ++ c.description)
    let aliases := d.registry.aliasesFor c.name
    if !aliases.isEmpty then puts ("Aliases: " ++ ", ".intercalate aliases)
    if !c.options.isEmpty || !c.usage.isEmpty then puts c.usageText

def runHelp (ctx : Context) : DeskM Reply := do
  match ctx.args with
  | name :: _ => helpOn name
  | [] =>
    let d ← get
    puts "Command list:"
    puts "--"
    for c in d.registry.listed false do
      puts (helpLine d c (d.registry.aliasesFor c.name))
  return .nothing

def removeAlias (name : String) : DeskM Unit := do
  let d ← get
  if d.registry.isAlias name then
    set { d with registry := d.registry.unalias name }
    puts ("Removed alias " ++ name)
  else putsError ("no such alias: " ++ name)

def addAlias (name target : String) : DeskM Unit := do
  let d ← get
  match d.registry.alias? name target with
  | none => putsError ("unknown command: " ++ target)
  | some r =>
    set { d with registry := r }
    puts (name ++ " -> " ++ (r.canonical? name).getD "None")

/-- Orders aliases by their characters. -/
def sortAliases (aliases : List (String × String)) : List (String × String) :=
  aliases.mergeSort fun a b => a.1 < b.1 || (a.1 == b.1 && a.2 ≤ b.2)

def listAliases : DeskM Unit := do
  match (← get).registry.aliases with
  | [] => puts "No aliases defined"
  | aliases =>
    puts "Aliases:"
    for (name, target) in sortAliases aliases do puts ("  " ++ name ++ "=" ++ target)

def runAlias (ctx : Context) : DeskM Reply := do
  match Command.given? (ctx.options.text? "delete"), ctx.args with
  | some name, _ => removeAlias name
  | none, [name, target] => addAlias name target
  | none, [] => listAliases
  | none, _ => putsError "alias takes a NAME and a COMMAND"
  return .nothing

end NestShell.Commands

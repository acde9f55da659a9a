import NestShell.Commands.Target
/-!
Commands that show or hand on source text and documentation.
-/
namespace NestShell.Commands

open NestShell.Code NestShell.Text NestShell.Shell DeskM

/-- Looks up the object that a command is about and goes on with it, if there is one. -/
def withMethod (ctx : Context) (go : Value → DeskM Reply) : DeskM Reply := do
  let scope ← scopeOf ctx
  let name := ctx.args.head?
  match ← methodObject ctx scope name with
  | .none =>
    putsNoMethod name
    return .skip
  | v => go v

/-- Goes on with the source text of an object and its first line, if they are known. -/
def withSource (v : Value) (go : String → Nat → DeskM Reply) : DeskM Reply := do
  match ← ofRun (Run.sourceText? v) with
  | some (text, first) => go text first
  | none =>
    putsError ("could not locate source for " ++ (← ofRun (Run.describe v)))
    return .skip

def shownSource (ctx : Context) (text : String) (first : Nat) : DeskM String :=
  highlighted "python" (numbersFrom ctx first) (trimEndOf ['\n'] text)

def runShowSource (ctx : Context) : DeskM Reply :=
  withMethod ctx fun v => withSource v fun text first => do
    showUnderHeading ctx v text (← shownSource ctx text first)
    return .nothing

def runShowDoc (ctx : Context) : DeskM Reply :=
  withMethod ctx fun v => do
    let doc ← ofRun (Run.docOfValue v)
    if doc.isEmpty then
      puts "No documentation found."
      return .skip
    else
      showUnderHeading ctx v doc doc
      return .nothing

/-- The function that a command's body calls. -/
def calledBy (c : Command) : Value :=
  match c.body with
  | .steps [.call f] => f
  | _ => .none

def runShowCommand (ctx : Context) : DeskM Reply := do
  match ctx.args with
  | [] =>
    puts ctx.command.usageText
    return .skip
  | name :: _ =>
    match (← get).registry.lookup name with
    | none =>
      puts ("No such command: " ++ name ++ ".")
      return .skip
    | some c =>
      let f := calledBy c
      match ← ofRun (Run.sourceText? f) with
      | some (text, first) =>
        showUnderHeading ctx f text (← shownSource ctx text first)
        return .nothing
      | none =>
        putsError ("could not locate source for command " ++ c.name)
        return .skip

/-- Hands source text to the program that publishes it. -/
def publish (ctx : Context) (v : Value) (text : String) : DeskM Reply := do
  let title ← ofRun (Run.describe v)
  let description := (Command.given? (ctx.options.text? "description")).getD ("Source of " ++ title)
  let visibility := if ctx.options.isOn "public" then ["--public"] else []
  let argv := ["gh", "gist", "create", "--filename", title ++ ".py", "--desc", description] ++
    visibility ++ ["-"]
  ask (.program argv text)
  match (← get).outside.program with
  | none =>
    putsError "could not run gh: [Errno 2] No such file or directory: 'gh'"
    return .skip
  | some r =>
    if r.status != 0 then
      putsError (trim (if r.errors.isEmpty then "gh gist create failed" else r.errors))
      return .skip
    else
      puts ("Gist created at " ++ trim r.output)
      return .nothing

def runGistSource (ctx : Context) : DeskM Reply :=
  withMethod ctx fun v => withSource v fun text _ => publish ctx v text

end NestShell.Commands

import NestShell.Shell.State
import NestShell.Text.Words
/-!
What may follow the text before the cursor. Its first word can be a command or begin an expression;
a later one begins an expression, goes on to an attribute, or is a path where the command is about
files. A completion takes the place of the last word only.
-/
namespace NestShell.Shell

open NestShell.Code NestShell.Text

/-- A text, and how many characters before the cursor it takes the place of. -/
structure Completion where
  text : String
  replaced : Nat
  deriving DecidableEq, Repr

namespace Completion

/-- The words before the cursor; after a blank a new one begins. In a quote that is still open the
blanks count as well. -/
def tokens (text : String) : List String :=
  match Words.split? text with
  | .ok ws => if text.toList.getLast?.any isBlank then ws ++ [""] else ws
  | .error _ =>
    let ws := words text
    if endsWith text " " || endsWith text "\t" then ws ++ [""] else ws

/-- What the last word asks for. -/
inductive Subject where
  | path
  /-- Any command. -/
  | command
  /-- A command, or a name that begins an expression. -/
  | first (start : String)
  | expression (start : String)
  deriving DecidableEq, Repr

/-- Commands whose words are paths. -/
def pathCommands : List String := ["cat-file", "eval-file", "pkg-cd"]

def subject (r : Registry) (style : PromptStyle) (text : String) : Subject :=
  if startsWith (trimStart text) "." then .path
  else
    match tokens text with
    | [] => .command
    | [start] => .first start
    | word :: rest =>
      if style = .shell || (r.canonical? word).any pathCommands.contains then .path
      else .expression (rest.getLastD "")

/-! ## Names -/

/-- How many names are offered at most. -/
def mostNames : Nat := 200

/-- Offers the candidates that begin as the word does, in whatever case, each once and sorted. -/
def offer (candidates : List String) (start : String) : List Completion :=
  let fitting := candidates.filter fun c => startsWith (lower c) (lower start)
  let sorted := (fitting.mergeSort fun a b => a ≤ b).eraseDups
  (sorted.take mostNames).map fun c => ⟨c, start.length⟩

/-- The commands that can be typed, with their aliases. -/
def commandNames (r : Registry) : List String :=
  ((r.listed false).filter (·.pattern.isNone)).flatMap fun c => c.name :: r.aliasesFor c.name

/-- The value of a name that needs no call. -/
def nameValue? (scope : Scope) (n : String) : Run (Option Value) := do
  let own : Run (Option Value) := Run.localName? engine scope.locals n
  let missing (_ : Nat) : Run (Option Value) := return none
  match ← Run.catchingOnly "KeyError" own missing with
  | some v => return some v
  | none => return (← Run.namesAt scope.globals).get? n

/-- Follows attributes. -/
def follow? (v : Value) : List String → Run (Option Value)
  | [] => return some v
  | n :: ns => do
    let next : Run (Option Value) := do return some (← engine.getAttr v n)
    match ← Run.catchingOnly "Exception" next fun _ => return none with
    | some w => follow? w ns
    | none => return none

/-- The value of names that points join. -/
def resolve? (scope : Scope) (dotted : String) : Run (Option Value) := do
  match splitOnChar '.' dotted with
  | [] => return none
  | n :: ns =>
    match ← nameValue? scope n with
    | some v => follow? v ns
    | none => return none

/-- What stands before the last point of a word, if it has one. -/
def beforePoint? (word : String) : Option String :=
  match cutAt '.' word.toList.reverse with
  | some (_, front) => some (String.ofList front.reverse)
  | none => none

/-- Names that begin an expression, or attributes of what stands before the last point. -/
def expressionNames (scope : Scope) (start : String) : Run (List String) := do
  match beforePoint? start with
  | none => scope.completionNames
  | some front =>
    match ← resolve? scope front with
    | none => return []
    | some v => return (← Run.directory engine v).map fun n => front ++ "." ++ n

/-! ## Paths -/

/-- The characters since the last blank. -/
def lastWord (text : String) : String :=
  String.ofList (text.toList.reverse.takeWhile fun c => !isBlank c).reverse

/-- The rests of the file names that begin as a path ends. -/
def pathRests (d : Desk) (word : String) : List Completion :=
  let path := Files.Path.expand d.homes word
  let start := Files.Path.base path
  let directory := Files.Path.parent path
  let directory := if directory.isEmpty then "." else directory
  if d.files.isDirectory directory then
    ((d.files.names directory).filter fun n => startsWith n start).map fun n =>
      ⟨String.ofList (n.toList.drop start.length), 0⟩
  else []

end Completion

open Completion in
/-- The completions of the text before the cursor, for a session that evaluates in a scope. -/
def completions (scope : Scope) (text : String) : DeskM (List Completion) := do
  let d ← get
  match subject d.registry d.promptStyle text with
  | .path => return pathRests d (lastWord text)
  | .command => return offer (commandNames d.registry) ""
  | .first start =>
    let names ← DeskM.ofRun scope.completionNames
    return offer (commandNames d.registry ++ names) start
  | .expression start => return offer (← DeskM.ofRun (expressionNames scope start)) start

end NestShell.Shell

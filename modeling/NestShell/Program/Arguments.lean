import NestShell.Files.Path
import NestShell.Program.Launch
import NestShell.Text.Letters
import NestShell.Text.Numeral
import NestShell.Text.Quoted
/-!
Reading the arguments of the program. Long options may be cut short as long as one option only
begins so, short ones may share a token, and values may follow in the token or in the next one.
-/
namespace NestShell.Program

open NestShell.Text NestShell.Files

/-- How the program is to run. -/
structure Settings where
  logLevel : String
  command : Option String := none
  historyFile : String
  historyLimit : Int := 1000
  startupFile : String
  noStartup : Bool := false
  noColor : Bool := false
  noPager : Bool := false
  simplePrompt : Bool := false
  strictCommands : Bool := false
  deriving DecidableEq, Repr

/-- Why arguments cannot be read. -/
inductive LaunchFault where
  | ambiguous (token : String) (forms : List String)
  | missingValue (o : LaunchOption)
  | uselessValue (o : LaunchOption) (value : String)
  | noInteger (o : LaunchOption) (value : String)
  | unrecognized (tokens : List String)
  deriving DecidableEq, Repr

def aboutOption (o : LaunchOption) (s : String) : String := "argument " ++ o.title ++ ": " ++ s

def LaunchFault.message : LaunchFault → String
  | .ambiguous token forms =>
    "ambiguous option: " ++ token ++ " could match " ++ ", ".intercalate forms
  | .missingValue o => aboutOption o "expected one argument"
  | .uselessValue o v => aboutOption o ("ignored explicit argument " ++ quoted v)
  | .noInteger o v => aboutOption o ("invalid int value: " ++ quoted v)
  | .unrecognized tokens => "unrecognized arguments: " ++ " ".intercalate tokens

/-- Why reading stops before the settings are known. -/
inductive LaunchStop where
  | help
  | fault (f : LaunchFault)
  deriving DecidableEq, Repr

/-! ## Tokens -/

/-- A value in the token of its option, after an equals sign or at once. -/
structure Joined where
  value : String
  byEquals : Bool
  deriving DecidableEq, Repr

/-- What a token is by its own form. -/
inductive TokenShape where
  | word
  /-- After it all tokens are words. -/
  | terminator
  | option (o : LaunchOption) (form : String) (joined : Option Joined)
  | unknown
  deriving DecidableEq, Repr

/-- Digits that at most one point divides; a point has digits after it. -/
def isDecimalText (cs : List Char) : Bool :=
  match cs.dropWhile isDecimalDigit with
  | [] => !cs.isEmpty
  | '.' :: part => !part.isEmpty && part.all isDecimalDigit
  | _ => false

/-- Whether a token is a number below zero. -/
def isBelowZero (token : String) : Bool :=
  match token.toList with
  | '-' :: cs => isDecimalText cs || (cs.getLast? == some '\n' && isDecimalText cs.dropLast)
  | _ => false

/-- A spelling before an equals sign, and the value after it. -/
def cutEquals (token : String) : String × Option Joined :=
  match cutAt '=' token.toList with
  | some (front, value) => (String.ofList front, some ⟨String.ofList value, true⟩)
  | none => (token, none)

/-- A spelling that a token may stand for, and how the token goes on. -/
structure Candidate where
  form : String
  option : LaunchOption
  joined : Option Joined

/-- What a token may stand for that is no spelling itself. -/
def candidates (token : String) : List Candidate :=
  if startsWith token "--" then
    let (front, joined) := cutEquals token
    (launchForms.filter fun e => startsWith e.1 front).map fun (f, o) => ⟨f, o, joined⟩
  else
    let front := String.ofList (token.toList.take 2)
    let rest := String.ofList (token.toList.drop 2)
    launchForms.filterMap fun (f, o) =>
      if f == front then some ⟨f, o, some ⟨rest, false⟩⟩
      else if startsWith f token then some ⟨f, o, none⟩
      else none

/-- The option that a token spells out, before an equals sign if it has one. -/
def spelled? (token : String) : Option TokenShape :=
  match formOption? token with
  | some o => some (.option o token none)
  | none =>
    match cutEquals token with
    | (_, none) => none
    | (form, joined) => (formOption? form).map fun o => .option o form joined

def tokenShape (token : String) : Except LaunchFault TokenShape :=
  if !startsWith token "-" || token == "-" then .ok .word
  else
    match spelled? token, candidates token with
    | some s, _ => .ok s
    | none, [c] => .ok (.option c.option c.form c.joined)
    | none, c :: cs => .error (.ambiguous token ((c :: cs).map (·.form)))
    | none, [] => .ok (if isBelowZero token || containsChar ' ' token then .word else .unknown)

def tokenShapes : List String → Except LaunchFault (List (String × TokenShape))
  | [] => .ok []
  | t :: ts =>
    if t == "--" then .ok ((t, .terminator) :: ts.map fun w => (w, .word))
    else do
      let s ← tokenShape t
      return (t, s) :: (← tokenShapes ts)

/-! ## Options -/

/-- What one token gives: uses of options with their values, what it holds besides, and whether it
takes the next token as a value. -/
structure Taken where
  uses : List (LaunchOption × String)
  extras : List String := []
  takesNext : Bool := false

/-- An option at the end of its token. -/
def takeAlone (o : LaunchOption) (next : Option String) : Except LaunchFault Taken :=
  if !o.takesValue then .ok ⟨[(o, "")], [], false⟩
  else
    match next with
    | some v => .ok ⟨[(o, v)], [], true⟩
    | none => .error (.missingValue o)

/-- Short options in one token: the first one, and the characters after it. -/
def takeCluster (next : Option String) : LaunchOption → List Char → Except LaunchFault Taken
  | o, [] => takeAlone o next
  | o, c :: cs => do
    let value := String.ofList (c :: cs)
    if o.takesValue then return ⟨[(o, value)], [], false⟩
    else if c == '-' then throw (.uselessValue o value)
    else
      match formOption? (String.ofList ['-', c]), cs with
      | none, _ => return ⟨[(o, "")], ["-" ++ value], false⟩
      | some o', '=' :: rest =>
        if o'.takesValue then return ⟨[(o, ""), (o', String.ofList rest)], [], false⟩
        else throw (.uselessValue o' (String.ofList rest))
      | some o', cs =>
        let t ← takeCluster next o' cs
        return { t with uses := (o, "") :: t.uses }

def takeOption (o : LaunchOption) (form : String) (joined : Option Joined) (next : Option String) :
    Except LaunchFault Taken :=
  match joined with
  | none => takeAlone o next
  | some j =>
    if o.takesValue then .ok ⟨[(o, j.value)], [], false⟩
    else if startsWith form "--" || j.byEquals || j.value.isEmpty then
      .error (.uselessValue o j.value)
    else takeCluster next o j.value.toList

/-- Applies an option. -/
def apply (s : Settings) (use : LaunchOption × String) : Except LaunchStop Settings :=
  let (o, value) := use
  match o.key with
  | .help => .error .help
  | .logLevel => .ok { s with logLevel := value }
  | .command => .ok { s with command := some value }
  | .historyFile => .ok { s with historyFile := Path.plain value }
  | .historyLimit =>
    match int? value with
    | some n => .ok { s with historyLimit := n }
    | none => .error (.fault (.noInteger o value))
  | .startupFile => .ok { s with startupFile := Path.plain value }
  | .noStartup => .ok { s with noStartup := true }
  | .noColor => .ok { s with noColor := true }
  | .noPager => .ok { s with noPager := true }
  | .simplePrompt => .ok { s with simplePrompt := true }
  | .strictCommands => .ok { s with strictCommands := true }

/-! ## All of them -/

def orStop {α : Type} : Except LaunchFault α → Except LaunchStop α
  | .ok a => .ok a
  | .error f => .error (.fault f)

/-- Reads tokens after one another; what belongs to no option is gathered. -/
def readTokens (s : Settings) (extras : List String) :
    List (String × TokenShape) → Except LaunchStop Settings
  | [] => if extras.isEmpty then .ok s else .error (.fault (.unrecognized extras))
  | (_, .option o form joined) :: rest => do
    let next := match rest with
      | (v, .word) :: _ => some v
      | _ => none
    let taken ← orStop (takeOption o form joined next)
    let s ← taken.uses.foldlM apply s
    readTokens s (extras ++ taken.extras) (if taken.takesNext then rest.tail else rest)
  | (t, _) :: rest => readTokens s (extras ++ [t]) rest
termination_by ts => ts.length
decreasing_by
  · split <;> simp only [List.length_tail, List.length_cons] <;> omega
  · simp

/-- The settings that arguments ask for; where they say nothing, the given ones stay. -/
def readArguments (s : Settings) (tokens : List String) : Except LaunchStop Settings := do
  readTokens s [] (← orStop (tokenShapes tokens))

end NestShell.Program

import NestShell.Options.Flag
/-!
The flags of a command, in the order in which they were added. No two of them share a short or a
long form: a flag that would is refused, and the schema stays as it was.
-/
namespace NestShell.Options

open NestShell.Text NestShell.Code

structure Schema where
  flags : List Flag := []

/-- Why a flag is refused. -/
inductive SchemaFault where
  | duplicateShort (c : Char)
  | duplicateLong (n : String)
  deriving DecidableEq, Repr

def SchemaFault.message : SchemaFault → String
  | .duplicateShort c => "duplicate short flag -" ++ c.toString
  | .duplicateLong n => "duplicate long flag --" ++ n

namespace Schema

def findShort? (s : Schema) (c : Char) : Option Flag := s.flags.find? fun f => f.short == some c

/-- The flag of a long form; no flag has the empty one. -/
def findLong? (s : Schema) (n : String) : Option Flag :=
  s.flags.find? fun f => f.longForm? == some n

def add (s : Schema) (f : Flag) : Except SchemaFault Schema :=
  match f.short.filter fun c => (s.findShort? c).isSome,
      f.longForm?.filter fun n => (s.findLong? n).isSome with
  | some c, _ => .error (.duplicateShort c)
  | none, some n => .error (.duplicateLong n)
  | none, none => .ok ⟨s.flags ++ [f]⟩

/-- A schema of flags that are known to have different forms. -/
def ofFlags (fs : List Flag) : Schema := ⟨fs⟩

/-- A schema of flags after which the help flag stands. -/
def withHelp (fs : List Flag) : Schema := ⟨fs ++ [helpFlag]⟩

def isEmpty (s : Schema) : Bool := s.flags.isEmpty

def hasHelp (s : Schema) : Bool := s.flags.any (·.asksHelp)

/-- The tokens that ask for help. -/
def helpTokens (s : Schema) : List String := (s.flags.filter (·.asksHelp)).flatMap (·.spellings)

/-- The initial values of the flags that do not ask for help. -/
def initials (s : Schema) : Names :=
  Names.ofList ((s.flags.filter (!·.asksHelp)).map fun f => (f.key, f.initial))

def usageLine (f : Flag) : String := trimEnd ("    " ++ padEnd 30 f.signature ++ " " ++ f.help)

/-- A banner and a line for each flag. -/
def usage (s : Schema) (banner : String) : String :=
  let front := if banner.isEmpty then [] else [trimEndOf ['\n'] banner]
  "\n".intercalate (front ++ s.flags.map usageLine)

end Schema

end NestShell.Options

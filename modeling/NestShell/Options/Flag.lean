import NestShell.Code.Names
import NestShell.Text.Blank
import NestShell.Text.LetterCase
import NestShell.Text.Quoted
/-!
A flag of a command: a switch, or a flag that takes a value. It has a short form of one character,
a long form, or both, and is known by a key made from its long form.
-/
namespace NestShell.Options

open NestShell.Text NestShell.Code

/-- Whether a flag is given alone or with a value, and what stands for it when it is not given. -/
inductive FlagKind where
  | switch (initial : Bool)
  | value (initial : Value) (metavar : String)

structure Flag where
  short : Option Char := none
  long : Option String := none
  help : String := ""
  kind : FlagKind := .switch false
  /-- Whether the flag asks for help. -/
  asksHelp : Bool := false

/-- Why forms make no flag. -/
inductive FlagFault where
  | noForm
  | longShort (form : String)
  deriving DecidableEq, Repr

def FlagFault.message : FlagFault → String
  | .noForm => "flag needs a short or long form"
  | .longShort s => "short flag must be a single character: " ++ quoted s

namespace Flag

def dropDashes (s : String) : String := trimStartOf ['-'] s

/-- A flag of given forms, whose leading dashes are dropped. -/
def make (short long : Option String) (help : String) (kind : FlagKind) (asksHelp : Bool) :
    Except FlagFault Flag :=
  if (short.getD "").isEmpty && (long.getD "").isEmpty then .error .noForm
  else
    match short.map dropDashes with
    | none => .ok ⟨none, long.map dropDashes, help, kind, asksHelp⟩
    | some s =>
      match s.toList with
      | [c] => .ok ⟨some c, long.map dropDashes, help, kind, asksHelp⟩
      | _ => .error (.longShort s)

/-- The long form, where it has any characters. -/
def longForm? (f : Flag) : Option String := f.long.filter fun n => !n.isEmpty

/-- The name under which the flag's value is kept. -/
def key (f : Flag) : String :=
  match f.longForm? with
  | some n => replaceChar '-' "_" n
  | none => (f.short.map Char.toString).getD ""

def takesValue (f : Flag) : Bool :=
  match f.kind with
  | .value .. => true
  | .switch _ => false

/-- The value that stands for the flag where it is not given. -/
def initial (f : Flag) : Value :=
  match f.kind with
  | .switch b => .bool b
  | .value v _ => v

def shortToken (c : Char) : String := "-" ++ c.toString

def longToken (n : String) : String := "--" ++ n

/-- The spellings of the flag. -/
def spellings (f : Flag) : List String :=
  (f.short.map shortToken).toList ++ (f.longForm?.map longToken).toList

/-- The flag as usage texts show it. -/
def signature (f : Flag) : String :=
  let forms := ", ".intercalate f.spellings
  match f.kind with
  | .switch _ => forms
  | .value _ metavar => forms ++ " " ++ (if metavar.isEmpty then upper f.key else metavar)

end Flag

/-- The flag with which every command shows its usage. -/
def helpFlag : Flag where
  short := some 'h'
  long := some "help"
  help := "This message."
  asksHelp := true

end NestShell.Options

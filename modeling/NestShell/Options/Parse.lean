import NestShell.Options.Schema
import NestShell.Text.Letters
/-!
Reading the tokens after a command's name. Tokens are flags, values of flags, or positional; `--`
ends the flags. A token that asks for help anywhere makes all others void.
-/
namespace NestShell.Options

open NestShell.Text NestShell.Code

/-- What the tokens say. -/
structure Parsed where
  values : Names := {}
  /-- The keys of the flags that were given. -/
  given : List String := []
  args : List String := []
  helpRequested : Bool := false

/-- Why tokens cannot be read. -/
inductive Fault where
  | unknownOption (token : String)
  | missingValue (flag : String)
  deriving DecidableEq, Repr

def Fault.message : Fault → String
  | .unknownOption t => "unknown option: " ++ t
  | .missingValue f => "missing value for option: " ++ f

namespace Parsed

def start (s : Schema) : Parsed := { values := s.initials }

/-- Dashes in a key count as low lines. -/
def plainKey (key : String) : String := replaceChar '-' "_" key

def isGiven (p : Parsed) (key : String) : Bool := p.given.contains (plainKey key)

def get? (p : Parsed) (key : String) : Option Value := p.values.get? (plainKey key)

/-- The text given for a key. -/
def text? (p : Parsed) (key : String) : Option String :=
  match p.get? key with
  | some (.str s) => some s
  | _ => none

/-- Whether a switch is on. -/
def isOn (p : Parsed) (key : String) : Bool :=
  match p.get? key with
  | some (.bool b) => b
  | _ => false

def set (p : Parsed) (f : Flag) (v : Value) : Parsed :=
  { p with
    values := p.values.set f.key v
    given := if p.given.contains f.key then p.given else p.given ++ [f.key] }

def addArg (p : Parsed) (t : String) : Parsed := { p with args := p.args ++ [t] }

end Parsed

/-- Digits, with at most one part after a point. -/
def isDecimal (cs : List Char) : Bool :=
  let whole := cs.takeWhile isDecimalDigit
  let rest := cs.dropWhile isDecimalDigit
  !whole.isEmpty && match rest with
    | [] => true
    | '.' :: part => !part.isEmpty && part.all isDecimalDigit
    | _ => false

/-- Whether a token is a number below zero; a line end may follow it. -/
def isNegativeNumber (token : String) : Bool :=
  match token.toList with
  | '-' :: cs => isDecimal cs || (cs.getLast? == some '\n' && isDecimal cs.dropLast)
  | _ => false

/-- What a token is by its own form. -/
inductive Shape where
  | terminator
  /-- A long form, and the value that an equals sign joins to it. -/
  | long (name : String) (inline : Option String)
  /-- Short forms in one token. -/
  | cluster (letters : List Char)
  | positional
  deriving DecidableEq, Repr

def shape (token : String) : Shape :=
  match token.toList with
  | ['-', '-'] => .terminator
  | '-' :: '-' :: cs =>
    match cutAt '=' cs with
    | some (name, value) => .long (String.ofList name) (some (String.ofList value))
    | none => .long (String.ofList cs) none
  | '-' :: c :: cs => if isNegativeNumber token then .positional else .cluster (c :: cs)
  | _ => .positional

/-- Where the reading of one token leads: on, with the tokens that are left; to the end, all of
whose tokens are positional; or to a request for help. -/
inductive Step where
  | more (p : Parsed) (rest : List String)
  | stop (p : Parsed)
  | help (p : Parsed)

abbrev Outcome := Except Fault Step

/-- Gives a flag the next token as its value. -/
def takeNext (spelling : String) (f : Flag) (p : Parsed) : List String → Outcome
  | [] => .error (.missingValue spelling)
  | v :: rest => .ok (.more (p.set f (.str v)) rest)

def readLong (s : Schema) (token name : String) (inline : Option String) (p : Parsed)
    (rest : List String) : Outcome :=
  match s.findLong? name with
  | none => .error (.unknownOption token)
  | some f =>
    if f.asksHelp then .ok (.help p)
    else if !f.takesValue then
      match inline with
      | some _ => .error (.unknownOption token)
      | none => .ok (.more (p.set f (.bool true)) rest)
    else
      match inline with
      | some v => .ok (.more (p.set f (.str v)) rest)
      | none => takeNext (Flag.longToken name) f p rest

/-- Reads short forms until one takes a value, which is what follows it in the token, or else the
next token. -/
def readCluster (s : Schema) : List Char → Parsed → List String → Outcome
  | [], p, rest => .ok (.more p rest)
  | c :: cs, p, rest =>
    match s.findShort? c with
    | none => .error (.unknownOption (Flag.shortToken c))
    | some f =>
      if f.asksHelp then .ok (.help p)
      else if !f.takesValue then readCluster s cs (p.set f (.bool true)) rest
      else
        match cs with
        | [] => takeNext (Flag.shortToken c) f p rest
        | _ => .ok (.more (p.set f (.str (String.ofList cs))) rest)

def readToken (s : Schema) (token : String) (p : Parsed) (rest : List String) : Outcome :=
  match shape token with
  | .terminator => .ok (.stop { p with args := p.args ++ rest })
  | .long name inline => readLong s token name inline p rest
  | .cluster letters => readCluster s letters p rest
  | .positional => .ok (.more (p.addArg token) rest)

theorem takeNext_length {spelling : String} {f : Flag} {p q : Parsed} {ts rest : List String}
    (h : takeNext spelling f p ts = .ok (.more q rest)) : rest.length ≤ ts.length := by
  cases ts with
  | nil => simp [takeNext] at h
  | cons t ts =>
    simp only [takeNext, Except.ok.injEq, Step.more.injEq] at h
    simp [← h.2]

theorem readLong_length {s : Schema} {token name : String} {inline : Option String}
    {p q : Parsed} {ts rest : List String}
    (h : readLong s token name inline p ts = .ok (.more q rest)) : rest.length ≤ ts.length := by
  unfold readLong at h
  split at h
  · simp at h
  · split at h
    · simp at h
    · split at h
      · split at h
        · simp at h
        · simp only [Except.ok.injEq, Step.more.injEq] at h
          simp [← h.2]
      · split at h
        · simp only [Except.ok.injEq, Step.more.injEq] at h
          simp [← h.2]
        · exact takeNext_length h

theorem readCluster_length {s : Schema} {q : Parsed} {rest : List String} :
    ∀ {letters : List Char} {p : Parsed} {ts : List String},
      readCluster s letters p ts = .ok (.more q rest) → rest.length ≤ ts.length
  | [], _, _, h => by
    simp only [readCluster, Except.ok.injEq, Step.more.injEq] at h
    simp [← h.2]
  | c :: cs, p, ts, h => by
    unfold readCluster at h
    split at h
    · simp at h
    · split at h
      · simp at h
      · split at h
        · exact readCluster_length h
        · split at h
          · exact takeNext_length h
          · simp only [Except.ok.injEq, Step.more.injEq] at h
            simp [← h.2]

/-- Reading one token never leaves more tokens than followed it. -/
theorem readToken_length {s : Schema} {token : String} {p q : Parsed} {ts rest : List String}
    (h : readToken s token p ts = .ok (.more q rest)) : rest.length ≤ ts.length := by
  unfold readToken at h
  split at h
  · simp at h
  · exact readLong_length h
  · exact readCluster_length h
  · simp only [Except.ok.injEq, Step.more.injEq] at h
    simp [← h.2]

/-- Reads tokens one after another. -/
def readAll (s : Schema) (p : Parsed) : List String → Except Fault Parsed
  | [] => .ok p
  | t :: ts =>
    match _h : readToken s t p ts with
    | .error f => .error f
    | .ok (.stop q) => .ok q
    | .ok (.help q) => .ok { q with helpRequested := true }
    | .ok (.more q rest) => readAll s q rest
termination_by ts => ts.length
decreasing_by
  have := readToken_length _h
  simp only [List.length_cons]
  omega

/-- Reads the tokens after a command's name by the command's schema; without flags all tokens are
positional. -/
def parse (s : Schema) (tokens : List String) : Except Fault Parsed :=
  let p := Parsed.start s
  if s.isEmpty then .ok { p with args := tokens }
  else if tokens.any s.helpTokens.contains then .ok { p with helpRequested := true }
  else readAll s p tokens

end NestShell.Options

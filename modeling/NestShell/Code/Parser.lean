import Std.Data.TreeMap
import NestShell.Code.Token
import NestShell.Code.Tree
/-!
Ordered-choice parsing over tokens. A parser either matches, fails to match so that the next choice
is tried, or stops with a fault. A text is parsed twice at most: when no statement matches, the
second pass turns on the rules that explain failures.
-/
namespace NestShell.Code

/-- What is parsed, and whether failures are to be explained. -/
structure Source where
  tokens : Array Token
  ending : Ending
  explain : Bool

/-- Why a parser does not go on. -/
inductive Halt where
  /-- The tokens do not have the wanted form. -/
  | mismatch
  /-- A rule found out what is wrong. -/
  | fault (f : SyntaxFault)
  /-- The text broke off before the token that was asked for. -/
  | brokenText
  | outOfFuel

/-- Orders pairs of a rule and a place. -/
def byRule (a b : Nat × Nat) : Ordering := (compare a.1 b.1).then (compare a.2 b.2)

/-- Results of rules at places, each with the place behind it; none where the rule does not match. -/
abbrev Known (γ : Type) := Std.TreeMap (Nat × Nat) (Option (γ × Nat)) byRule

/-- The place reached, the number of tokens ever looked at, and the results known. -/
structure Cursor where
  position : Nat
  reach : Nat
  known : Known Expr
  shapes : Known Shape

abbrev Parser := ReaderT Source (EStateM Halt Cursor)

namespace Parser

variable {α β : Type}

def mismatch : Parser α := throw .mismatch

/-- The next token, which stays next. -/
def peek : Parser Token := do
  let c ← get
  match (← read).tokens[c.position]? with
  | some t => do
    set { c with reach := max c.reach (c.position + 1) }
    return t
  | none => throw .brokenText

def advance : Parser Unit := modify fun c => { c with position := c.position + 1 }

def token (p : Token → Bool) : Parser Token := do
  let t ← peek
  if p t then
    advance
    return t
  else mismatch

/-- The words that are no names. -/
def reserved : List String :=
  ["False", "None", "True", "and", "as", "assert", "async", "await", "break", "class", "continue",
    "def", "del", "elif", "else", "except", "finally", "for", "from", "global", "if", "import",
    "in", "is", "lambda", "nonlocal", "not", "or", "pass", "raise", "return", "try", "while",
    "with", "yield"]

def mark (text : String) : Parser Token := token fun t => t.kind == .mark && t.text == text

def word (text : String) : Parser Token := token fun t => t.kind == .name && t.text == text

def name : Parser Token := token fun t => t.kind == .name && !reserved.contains t.text

def ofKind (k : TokenKind) : Parser Token := token (·.kind == k)

/-- Tries a parser; where it does not match nothing is taken. -/
def attempt? (p : Parser α) : Parser (Option α) := fun source cursor =>
  match p source cursor with
  | .ok a c => .ok (some a) c
  | .error .mismatch c => .ok none { c with position := cursor.position }
  | .error h c => .error h c

/-- The first of several choices that matches. -/
def oneOf : List (Parser α) → Parser α
  | [] => mismatch
  | [p] => p
  | p :: ps => do
    match ← attempt? p with
    | some a => return a
    | none => oneOf ps

/-- Matches without taking tokens. -/
def ahead (p : Parser α) : Parser Unit := do
  let here := (← get).position
  discard p
  modify fun c => { c with position := here }

def notAhead (p : Parser α) : Parser Unit := do
  let here := (← get).position
  match ← attempt? p with
  | some _ =>
    modify fun c => { c with position := here }
    mismatch
  | none => return

def optional (p : Parser α) : Parser (Option α) := attempt? p

def manyLoop (p : Parser α) : Nat → List α → Parser (List α)
  | 0, _ => throw .outOfFuel
  | fuel + 1, acc => do
    match ← attempt? p with
    | some a => manyLoop p fuel (a :: acc)
    | none => return acc.reverse

/-- As many matches as there are; each takes a token. -/
def many (p : Parser α) : Parser (List α) := do
  manyLoop p ((← read).tokens.size + 2) []

def many1 (p : Parser α) : Parser (List α) := do
  let a ← p
  return a :: (← many p)

/-- One or more matches with separators between them. -/
def separated (separator : String) (p : Parser α) : Parser (List α) := do
  let a ← p
  return a :: (← many do discard (mark separator); p)

def comma : Parser Unit := discard (mark ",")

def optionalComma : Parser Unit := discard (optional comma)

/-- Rules that only explain failures. -/
def explaining (p : Parser α) : Parser α := do
  if (← read).explain then p else mismatch

def withoutExplaining (p : Parser α) : Parser α :=
  ReaderT.adapt (fun s => { s with explain := false }) p

/-- Stops with a complaint about a line. -/
def complainAt (line : Int) (c : Complaint) : Parser α := throw (.fault ⟨c, line⟩)

def lineAt (source : Source) (i : Nat) : Nat := (source.tokens[i]?.map Token.line).getD 0

/-- Stops with a complaint about the line of the last token looked at. -/
def complain (c : Complaint) : Parser α := do
  complainAt (lineAt (← read) ((← get).reach - 1)) c

/-- The line of the last line end taken. -/
def lastLine : Parser Nat := do
  let taken := ((← read).tokens.toList.take (← get).position).reverse
  return ((taken.find? (·.kind == .lineEnd)).map Token.line).getD 0

/-- A token that must come next. -/
def demand (text : String) : Parser Unit := do
  match ← attempt? (oneOf [mark text, word text]) with
  | some _ => return
  | none => do
    let t ← peek
    complainAt t.line (.expected text)

/-- Runs a rule once for each place; `keep` stores the table of its results. -/
def rememberedIn (table : Cursor → Known α) (keep : Known α → Cursor → Cursor) (rule : Nat)
    (p : Parser α) : Parser α := do
  let here := (← get).position
  match (table (← get))[(rule, here)]? with
  | some (some (a, after)) =>
    modify fun c => { c with position := after }
    return a
  | some none => mismatch
  | none =>
    match ← attempt? p with
    | some a =>
      modify fun c => keep ((table c).insert (rule, here) (some (a, c.position))) c
      return a
    | none =>
      modify fun c => keep ((table c).insert (rule, here) none) c
      mismatch

def remembered : Nat → Parser Expr → Parser Expr :=
  rememberedIn Cursor.known fun known c => { c with known := known }

def rememberedShape : Nat → Parser Shape → Parser Shape :=
  rememberedIn Cursor.shapes fun shapes c => { c with shapes := shapes }

/-- A hard fault in the rest of the text, or a bracket left open before the line reached, outweighs
a complaint. -/
def weigh (source : Source) (reach : Nat) (f : SyntaxFault) : SyntaxFault :=
  match source.ending with
  | .complete => f
  | .hard g _ => g
  | .soft _ _ _ none => f
  | .soft _ _ _ (some (c, line)) =>
    if lineAt source (reach - 1) > line then ⟨.neverClosed c, line⟩ else f

/-- Why a text is no program; an incomplete one may be the beginning of one. -/
inductive Failure where
  | incomplete
  | fault (f : SyntaxFault)
  | outOfFuel
  deriving Repr

/-- The tokens that stand for the end of the text: the end itself, line ends put before it, and the
indentation that it closes. -/
def closingTokens (reading : Reading) (tokens : Array Token) : Nat :=
  let back := tokens.toList.reverse
  let ends := back.takeWhile (·.kind == .textEnd)
  let more := back.drop ends.length
  let lineEnds : List Token := match reading with
    | .program => []
    | .entry => (more.take 1).filter (·.kind == .lineEnd)
  let dedents := (more.drop lineEnds.length).takeWhile (·.kind == .dedent)
  ends.length + lineEnds.length + dedents.length

/-- Whether the text ended where more was wanted. -/
def exhausted (reading : Reading) (source : Source) (h : Halt) (reach : Nat) : Bool :=
  match source.ending, h with
  | .hard _ e, .brokenText => e
  | .soft _ _ e _, .brokenText => e
  | .complete, _ => reach + closingTokens reading source.tokens > source.tokens.size
  | _, _ => false

def broken (source : Source) : SyntaxFault :=
  match source.ending with
  | .complete => ⟨.invalidSyntax, lineAt source (source.tokens.size - 1)⟩
  | .hard f _ => f
  | .soft c line _ _ => ⟨c, line⟩

/-- The complaint about the last token of the first pass when the second explained nothing. -/
def unexplained (source : Source) (first second : Nat) : SyntaxFault :=
  match source.tokens[first - 1]? with
  | some t =>
    match t.kind with
    | .indent => ⟨.unexpectedIndent, t.line⟩
    | .dedent => ⟨.unexpectedUnindent, t.line⟩
    | _ => weigh source second ⟨.invalidSyntax, t.line⟩
  | none => ⟨.invalidSyntax, 0⟩

/-- Parses a text by one rule. Only an entry can be incomplete; a program that ends early is faulty. -/
def parse {γ : Type} (reading : Reading) (rule : Parser γ) (tokens : Array Token)
    (ending : Ending) : Except Failure γ :=
  let source : Source := ⟨tokens, ending, false⟩
  match rule source ⟨0, 0, ∅, ∅⟩ with
  | .ok a _ => .ok a
  | .error h c =>
    if reading == .entry && exhausted reading source h c.reach then .error .incomplete
    else
      match h with
      | .outOfFuel => .error .outOfFuel
      | .fault f => .error (.fault (weigh source c.reach f))
      | .brokenText => .error (.fault (broken source))
      | .mismatch =>
        match rule { source with explain := true } ⟨0, c.reach, ∅, ∅⟩ with
        | .ok a _ => .ok a
        | .error .outOfFuel _ => .error .outOfFuel
        | .error .brokenText _ => .error (.fault (broken source))
        | .error (.fault f) c' => .error (.fault (weigh source c'.reach f))
        | .error .mismatch c' => .error (.fault (unexplained source c.reach c'.reach))

end Parser

end NestShell.Code

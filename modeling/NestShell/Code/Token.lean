import NestShell.Code.Complaint
import NestShell.Text.Letters
import NestShell.Text.Lines
import NestShell.Text.Printable
/-!
Tokens of a source text. `scan` splits a whole text at once: line ends and changes of indentation
become tokens, except inside brackets. A text that cannot be split to its end gives the tokens up
to the fault and says how it ended.
-/
namespace NestShell.Code

open NestShell.Text

inductive TokenKind where
  | name
  | number
  | string
  | mark
  | lineEnd
  | indent
  | dedent
  | textEnd
  deriving DecidableEq, Repr

/-- A token, the line it starts on, and how many brackets are open after it. -/
structure Token where
  kind : TokenKind
  text : String
  line : Nat
  depth : Nat
  deriving Repr

/-- How the tokens of a text end. -/
inductive Ending where
  /-- The last token is the end of the text. -/
  | complete
  /-- A fault that outweighs what is wrong with the statements before it; `exhausted` tells that
  it was the end of the text that was unexpected. -/
  | hard (fault : SyntaxFault) (exhausted : Bool)
  /-- A fault that counts only when a statement reaches it. -/
  | soft (complaint : Complaint) (line : Nat) (exhausted : Bool) (unclosed : Option (Char × Nat))
  deriving Repr

/-- How a text is read: as a program, or as one entry at a prompt. -/
inductive Reading where
  | program
  | entry
  deriving DecidableEq, Repr

namespace Token

structure Lexer where
  rest : List Char
  /-- The line of the next character. -/
  line : Nat
  /-- The columns of the open indentation levels, counted with wide and with narrow tabs. -/
  indents : List (Nat × Nat)
  brackets : List (Char × Nat)
  tokens : Array Token
  /-- The line on which the text ends. -/
  lastLine : Nat

def wideTab : Nat := 8

def mostIndents : Nat := 100

def mostBrackets : Nat := 200

def isNameStart (c : Char) : Bool := c.isAlpha || c == '_' || c.toNat ≥ 128

def isNamePart (c : Char) : Bool := c.isAlphanum || c == '_' || c.toNat ≥ 128

/-- The rest after decimal digits with single low lines between them. -/
def afterDigits : List Char → Except Complaint (List Char)
  | '_' :: c :: cs =>
    if c.isDigit then afterDigits cs else .error (.invalidLiteral "decimal")
  | ['_'] => .error (.invalidLiteral "decimal")
  | c :: cs => if c.isDigit then afterDigits cs else .ok (c :: cs)
  | [] => .ok []

/-- Words that may follow a number without a blank, where no longer name begins. -/
def wordsAfterNumber : List (List Char) := ["and", "else", "for", "or", "not"].map String.toList

/-- Words that may follow a number, whatever comes after them. -/
def startsAfterNumber : List (List Char) := ["if", "in", "is"].map String.toList

/-- A number must not run into a name. -/
def endNumber (kind : String) (cs : List Char) : Except Complaint (List Char) :=
  match cs with
  | [] => .ok []
  | c :: _ =>
    if startsAfterNumber.any (·.isPrefixOf cs) then .ok cs
    else if wordsAfterNumber.contains (cs.takeWhile isNamePart) then .ok cs
    else if isNamePart c then .error (.invalidLiteral kind)
    else .ok cs

def endImaginary (cs : List Char) : Except Complaint (List Char) :=
  match cs with
  | c :: rest =>
    if c == 'j' || c == 'J' then endNumber "imaginary" rest else endNumber "decimal" cs
  | [] => .ok []

/-- The rest after an optional exponent and the end of a number. -/
def afterExponent (cs : List Char) : Except Complaint (List Char) :=
  match cs with
  | e :: rest =>
    if e == 'e' || e == 'E' then
      match rest with
      | c :: cs' =>
        if c == '+' || c == '-' then
          match cs' with
          | d :: ds =>
            if d.isDigit then do endImaginary (← afterDigits ds)
            else .error (.invalidLiteral "decimal")
          | [] => .error (.invalidLiteral "decimal")
        else if c.isDigit then do endImaginary (← afterDigits cs')
        else endNumber "decimal" cs
      | [] => endNumber "decimal" cs
    else endImaginary cs
  | [] => .ok []

/-- The rest after the digits behind a point. -/
def afterPoint : List Char → Except Complaint (List Char)
  | c :: cs => if c.isDigit then do afterExponent (← afterDigits cs) else afterExponent (c :: cs)
  | [] => .ok []

/-- The rest after digits of a base, a low line allowed before each group. -/
def afterBased (isDigit : Char → Bool) (kind : String) (digitNamed first : Bool) :
    List Char → Except Complaint (List Char)
  | '_' :: c :: cs =>
    if isDigit c then afterBased isDigit kind digitNamed false cs
    else if digitNamed && c.isDigit then .error (.invalidDigit c kind)
    else .error (.invalidLiteral kind)
  | ['_'] => .error (.invalidLiteral kind)
  | c :: cs =>
    if isDigit c then afterBased isDigit kind digitNamed false cs
    else if digitNamed && c.isDigit then .error (.invalidDigit c kind)
    else if first then .error (.invalidLiteral kind)
    else endNumber kind (c :: cs)
  | [] => if first then .error (.invalidLiteral kind) else .ok []

def isHexDigit (c : Char) : Bool :=
  c.isDigit || ('a' ≤ c && c ≤ 'f') || ('A' ≤ c && c ≤ 'F')

/-- The rest after zeros with single low lines before or between them. -/
def afterZeros : List Char → Except Complaint (List Char)
  | '_' :: c :: cs =>
    if c == '0' then afterZeros cs
    else if c.isDigit then .ok (c :: cs)
    else .error (.invalidLiteral "decimal")
  | ['_'] => .error (.invalidLiteral "decimal")
  | '0' :: cs => afterZeros cs
  | cs => .ok cs

/-- The rest after a number that begins with a zero, which is read already. -/
def afterLeadingZero (cs : List Char) : Except Complaint (List Char) :=
  match cs with
  | 'x' :: r | 'X' :: r => afterBased isHexDigit "hexadecimal" false true r
  | 'o' :: r | 'O' :: r => afterBased (fun c => '0' ≤ c && c ≤ '7') "octal" true true r
  | 'b' :: r | 'B' :: r => afterBased (fun c => c == '0' || c == '1') "binary" true true r
  | _ => do
    let r ← afterZeros cs
    let nonzero := r.head?.any Char.isDigit
    let r ← if nonzero then afterDigits r else pure r
    match r with
    | '.' :: r' => afterPoint r'
    | c :: _ =>
      if c == 'e' || c == 'E' then afterExponent r
      else if c == 'j' || c == 'J' then endImaginary r
      else if nonzero then .error .leadingZeros
      else endNumber "decimal" r
    | [] => if nonzero then .error .leadingZeros else .ok []

/-- The rest after a number that begins with digit `d`, which is read already. -/
def afterNumber (d : Char) (cs : List Char) : Except Complaint (List Char) :=
  if d == '0' then afterLeadingZero cs
  else do
    let r ← afterDigits cs
    match r with
    | '.' :: r' => afterPoint r'
    | _ => afterExponent r

/-- Letters that may stand before a string: at most one of each, in the combinations allowed. -/
def isStringMark (cs : List Char) : Bool :=
  ["b", "r", "u", "f", "br", "rb", "fr", "rf"].contains
    (String.ofList (cs.map Char.toLower))

/-- The end of a string: the rest after it, or where it broke off. -/
inductive StringEnd where
  | closed (rest : List Char)
  | open_ (atLineEnd : Bool) (lines : Nat)

/-- Reads to the closing quote; `run` quotes were just seen of the `size` that close, `lines`
counts line ends, and `escaped` says that the last character was a backslash. -/
def closeString (quote : Char) (size : Nat) : Nat → Nat → Bool → List Char → StringEnd
  | _, lines, _, [] => .open_ false lines
  | _, lines, true, c :: cs => closeString quote size 0 (if c == '\n' then lines + 1 else lines)
      false cs
  | run, lines, false, c :: cs =>
    if size == 1 && c == '\n' then .open_ true lines
    else if c == quote then
      if run + 1 == size then .closed cs else closeString quote size (run + 1) lines false cs
    else
      closeString quote size 0 (if c == '\n' then lines + 1 else lines) (c == '\\') cs

def tripleMarks : List String := ["**=", "//=", "<<=", ">>=", "..."]

def doubleMarks : List String :=
  ["!=", "%=", "&=", "**", "*=", "+=", "-=", "->", "//", "/=", ":=", "<<", "<=", "<>", "==", ">=",
    ">>", "@=", "^=", "|="]

/-- The longest mark that a text begins with; any character is a mark. -/
def markOf : List Char → String
  | a :: b :: c :: _ =>
    if tripleMarks.contains (String.ofList [a, b, c]) then String.ofList [a, b, c]
    else if doubleMarks.contains (String.ofList [a, b]) then String.ofList [a, b]
    else a.toString
  | [a, b] =>
    if doubleMarks.contains (String.ofList [a, b]) then String.ofList [a, b] else a.toString
  | [a] => a.toString
  | [] => ""

namespace Lexer

def push (s : Lexer) (kind : TokenKind) (text : String) (line : Nat) : Lexer :=
  { s with tokens := s.tokens.push ⟨kind, text, line, s.brackets.length⟩ }

/-- The text from the rest of `s` up to `rest`. -/
def textTo (s : Lexer) (rest : List Char) : String :=
  String.ofList (s.rest.take (s.rest.length - rest.length))

def soft (s : Lexer) (c : Complaint) (line : Nat) (exhausted : Bool) : Array Token × Ending :=
  (s.tokens, .soft c line exhausted s.brackets.head?)

def hard (s : Lexer) (c : Complaint) (exhausted : Bool) : Array Token × Ending :=
  (s.tokens, .hard ⟨c, s.line⟩ exhausted)

/-- What follows a backslash outside strings: the next line, or why there is none. -/
def continueLine (s : Lexer) : Except (Array Token × Ending) Lexer :=
  match s.rest with
  | '\n' :: [] =>
    match s.brackets with
    | (c, line) :: _ => .error (s.soft (.neverClosed c) line true)
    | [] => .error (s.soft .unexpectedEnd s.line true)
  | '\n' :: cs => .ok { s with rest := cs, line := s.line + 1 }
  | _ => .error (s.soft .afterContinuation s.line false)

/-- The columns of the next line's first character. A backslash before it fixes the column. -/
def measure (s : Lexer) :
    Nat → Nat → Nat → Nat → Except (Array Token × Ending) (Lexer × Nat × Nat × Nat)
  | 0, col, alt, fixed => .ok (s, col, alt, fixed)
  | fuel + 1, col, alt, fixed =>
    match s.rest with
    | ' ' :: cs => measure { s with rest := cs } fuel (col + 1) (alt + 1) fixed
    | '\t' :: cs =>
      measure { s with rest := cs } fuel ((col / wideTab + 1) * wideTab) (alt + 1) fixed
    | '\x0c' :: cs => measure { s with rest := cs } fuel 0 0 fixed
    | '\\' :: cs => do
      let s ← continueLine { s with rest := cs }
      measure s fuel col alt (if fixed == 0 then col else fixed)
    | _ => .ok (s, col, alt, fixed)

/-- Closes indentation levels down to column `col`. -/
def dedent (col line : Nat) (s : Lexer) : Nat → Lexer
  | 0 => s
  | fuel + 1 =>
    match s.indents with
    | (top, _) :: outer@(_ :: _) =>
      if col < top then dedent col line ({ s with indents := outer }.push .dedent "" line) fuel
      else s
    | _ => s

/-- Compares a line's column with the open levels. -/
def indentTo (s : Lexer) (col alt : Nat) : Except (Array Token × Ending) Lexer :=
  let line := if s.rest.isEmpty then s.lastLine else s.line
  match s.indents with
  | [] => .ok s
  | (top, topAlt) :: _ =>
    if col == top then
      if alt != topAlt then .error (s.soft .inconsistentTabs line false) else .ok s
    else if col > top then
      if s.indents.length ≥ mostIndents then .error (s.soft .tooDeep line false)
      else if alt ≤ topAlt then .error (s.soft .inconsistentTabs line false)
      else .ok ({ s with indents := (col, alt) :: s.indents }.push .indent "" line)
    else
      let closed := dedent col line s s.indents.length
      match closed.indents with
      | (t, tAlt) :: _ =>
        if col != t then .error (s.soft .unindentMismatch line false)
        else if alt != tAlt then .error (s.soft .inconsistentTabs line false)
        else .ok closed
      | [] => .ok closed

def isInnerBlank (c : Char) : Bool := c == ' ' || c == '\t' || c == '\x0c'

/-- A string whose opening quote comes next, behind `markSize` letters. -/
def scanString (s : Lexer) (markSize : Nat) : Except (Array Token × Ending) Lexer :=
  match s.rest.drop markSize with
  | q :: cs =>
    let outcome := match cs with
      | a :: b :: r =>
        if a == q && b == q then (3, closeString q 3 0 0 false r)
        else if a == q then (1, .closed (b :: r))
        else (1, closeString q 1 0 0 false cs)
      | [a] => if a == q then (1, .closed []) else (1, closeString q 1 0 0 false cs)
      | [] => (1, closeString q 1 0 0 false cs)
    match outcome with
    | (_, .closed rest) =>
      let text := s.textTo rest
      .ok { s.push .string text s.line with
            rest := rest, line := s.line + text.toList.count '\n' }
    | (size, .open_ atLineEnd lines) =>
      let last := if atLineEnd then s.line + lines else s.lastLine
      .error (s.hard (if size == 3 then .unterminatedTriple last else .unterminatedString last)
        !atLineEnd)
  | [] => .ok s

def scanName (s : Lexer) : Except (Array Token × Ending) Lexer :=
  let marks := s.rest.takeWhile fun c => ['b', 'r', 'u', 'f'].contains c.toLower
  if isStringMark marks && (s.rest.drop marks.length).head?.any fun c => c == '\x27' || c == '\x22'
  then s.scanString marks.length
  else
    let cs := s.rest.takeWhile isNamePart
    let bad := match cs with
      | [] => none
      | c :: r => if !isIdentifierStart c then some c else r.find? fun c => !isIdentifierRest c
    match bad with
    | some c =>
      .error (s.hard (if isPrintable c then .invalidCharacter c else .unprintableCharacter c) false)
    | none =>
      .ok { s.push .name (String.ofList cs) s.line with rest := s.rest.drop cs.length }

def closes (opening close : Char) : Bool :=
  (opening == '(' && close == ')') || (opening == '[' && close == ']') ||
    (opening == '\x7b' && close == '\x7d')

def scanMark (s : Lexer) (c : Char) : Except (Array Token × Ending) Lexer :=
  let text := markOf s.rest
  let next (s : Lexer) : Except (Array Token × Ending) Lexer :=
    .ok { s.push .mark text s.line with rest := s.rest.drop text.length }
  if c == '(' || c == '[' || c == '\x7b' then
    if s.brackets.length ≥ mostBrackets then .error (s.hard .tooManyBrackets false)
    else next { s with brackets := (c, s.line) :: s.brackets }
  else if c == ')' || c == ']' || c == '\x7d' then
    match s.brackets with
    | [] => .error (s.hard (.unmatched c) false)
    | (opening, line) :: outer =>
      if closes opening c then next { s with brackets := outer }
      else
        let at_ := if line == s.line then none else some line
        .error ({ s with brackets := outer }.hard (.mismatched c opening at_) false)
  else if text.length == 1 && !isPrintable c then .error (s.hard (.unprintableCharacter c) false)
  else next s

/-- One step within a line; the flag tells whether a new line begins, and `none` ends the text. -/
def step (blankLine : Bool) (s : Lexer) :
    Except (Array Token × Ending) (Option (Lexer × Bool)) := do
  match s.rest with
  | [] =>
    match s.brackets with
    | [] => .ok none
    | (c, line) :: _ => .error (s.soft (.neverClosed c) line true)
  | c :: cs =>
    if isInnerBlank c then .ok (some ({ s with rest := cs }, false))
    else if c == '#' then .ok (some ({ s with rest := cs.dropWhile (· != '\n') }, false))
    else if isNameStart c then return some (← s.scanName, false)
    else if c == '\n' then
      let s' := if blankLine || !s.brackets.isEmpty then s else s.push .lineEnd "" s.line
      .ok (some ({ s' with rest := cs, line := s.line + 1 }, true))
    else if c.isDigit || (c == '.' && cs.head?.any Char.isDigit) then
      match if c == '.' then afterPoint cs else afterNumber c cs with
      | .ok rest => .ok (some ({ s.push .number (s.textTo rest) s.line with rest := rest }, false))
      | .error e => .error (s.hard e false)
    else if c == '\x27' || c == '\x22' then return some (← s.scanString 0, false)
    else if c == '\\' then return some (← { s with rest := cs }.continueLine, false)
    else return some (← s.scanMark c, false)

/-- The start of a line: whether it is blank, and the changes of indentation. -/
def startLine (s : Lexer) : Except (Array Token × Ending) (Lexer × Bool) := do
  let (s, col, alt, fixed) ← s.measure (s.rest.length + 1) 0 0 0
  match s.rest with
  | '#' :: _ | '\n' :: _ => return (s, true)
  | _ =>
    if s.brackets.isEmpty then
      if fixed != 0 then return (← s.indentTo fixed fixed, false)
      else return (← s.indentTo col alt, false)
    else return (s, false)

/-- Steps to the end of the text; each step takes a character. -/
def run : Nat → Bool → Bool → Lexer → Array Token × Ending
  | 0, _, _, s => (s.tokens, .complete)
  | fuel + 1, newLine, blankLine, s =>
    let started := if newLine then s.startLine else .ok (s, blankLine)
    match started with
    | .error e => e
    | .ok (s, blankLine) =>
      match s.step blankLine with
      | .error e => e
      | .ok none => ((s.push .textEnd "" s.lastLine).tokens, .complete)
      | .ok (some (s, newLine)) => run fuel newLine blankLine s

end Lexer

def endWithLine (cs : List Char) : List Char :=
  if cs.getLast? == some '\n' then cs else cs ++ ['\n']

/-- An entry ends its last statement at the end of the text, which is why a line end is put there. -/
def closeEntry (tokens : Array Token) : Array Token :=
  match tokens.back? with
  | some t =>
    if t.kind == .textEnd && tokens.size > 1 then tokens.pop.push { t with kind := .lineEnd } |>.push t
    else tokens
  | none => tokens

/-- The tokens of a text and how they end. -/
def scan (reading : Reading) (text : String) : Array Token × Ending :=
  let cs := unifyLineEnds text.toList
  let cs := match reading with
    | .program => endWithLine cs
    | .entry => cs
  let ends := cs.count '\n'
  let lastLine := if cs.getLast? == some '\n' then ends else ends + 1
  let s : Lexer := ⟨cs, 1, [(0, 0)], [], #[], lastLine⟩
  let (tokens, ending) := s.run (2 * cs.length + 2) true false
  match reading, ending with
  | .entry, .complete => (closeEntry tokens, ending)
  | _, _ => (tokens, ending)

end Token

end NestShell.Code

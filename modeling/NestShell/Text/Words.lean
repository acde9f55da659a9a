import NestShell.Text.Blank
/-!
Command words in the manner of a POSIX shell: blanks separate, quotes group, a backslash escapes.
A line has no words when a quote stays open or nothing follows an escape; `split` then stands for
the fault with two words, the trimmed line and a marked message. `quote` writes an argument as one
word.
-/
namespace NestShell.Text.Words

inductive Fault where
  | openQuote
  | openEscape
  deriving DecidableEq, Repr

def Fault.message : Fault → String
  | .openQuote => "No closing quotation"
  | .openEscape => "No escaped character"

/-- Where the reader stands: between words, in a word, in a quote, or after a backslash. -/
inductive Mode where
  | gap
  | word
  | quote (q : Char)
  | escape (within : Option Char)
  deriving DecidableEq, Repr

def isSeparator (c : Char) : Bool := c == ' ' || c == '\t' || c == '\r' || c == '\n'

def isQuote (c : Char) : Bool := c == '\x27' || c == '\x22'

/-- Reads words from a mode; the open word is held in reverse. Only double quotes let a backslash
escape, and there it stays before any character but the quote and itself. -/
def scan : Mode → List Char → List Char → Except Fault (List (List Char))
  | .gap, _, [] => .ok []
  | .word, open_, [] => .ok [open_.reverse]
  | .quote _, _, [] => .error .openQuote
  | .escape _, _, [] => .error .openEscape
  | .gap, open_, c :: cs =>
    if isSeparator c then scan .gap open_ cs
    else if c == '\\' then scan (.escape none) [] cs
    else if isQuote c then scan (.quote c) [] cs
    else scan .word [c] cs
  | .word, open_, c :: cs =>
    if isSeparator c then (open_.reverse :: ·) <$> scan .gap [] cs
    else if isQuote c then scan (.quote c) open_ cs
    else if c == '\\' then scan (.escape none) open_ cs
    else scan .word (c :: open_) cs
  | .quote q, open_, c :: cs =>
    if c == q then scan .word open_ cs
    else if c == '\\' && q == '\x22' then scan (.escape (some q)) open_ cs
    else scan (.quote q) (c :: open_) cs
  | .escape none, open_, c :: cs => scan .word (c :: open_) cs
  | .escape (some q), open_, c :: cs =>
    if c == '\\' || c == q then scan (.quote q) (c :: open_) cs
    else scan (.quote q) (c :: '\\' :: open_) cs

/-- The words of a line, or why it has none. -/
def split? (line : String) : Except Fault (List String) :=
  (List.map String.ofList) <$> scan .gap [] line.toList

def faultMark : String := "#parse-error"

/-- The words of a line; a faulty line gives itself, trimmed, and the marked fault. -/
def split (line : String) : List String :=
  match split? line with
  | .ok ws => ws
  | .error f => [trim line, faultMark ++ ":" ++ f.message]

/-- Whether a word list reads as a marked fault. -/
def isFault : List String → Bool
  | [_, second] => startsWith second faultMark
  | _ => false

/-- Characters that need no quoting in a word. -/
def isPlain (c : Char) : Bool :=
  c.isAlphanum || c == '_' || c == '@' || c == '%' || c == '+' || c == '=' || c == ':' ||
    c == ',' || c == '.' || c == '/' || c == '-'

/-- An apostrophe inside a quoted word closes the quote, stands in double quotes and opens the
quote again. -/
def quoteChars : List Char → List Char
  | [] => []
  | c :: cs =>
    if c == '\x27' then ['\x27', '\x22', '\x27', '\x22', '\x27'] ++ quoteChars cs
    else c :: quoteChars cs

/-- An argument written as one word. -/
def quote (s : String) : String :=
  if s.isEmpty then "\x27\x27"
  else if s.toList.all isPlain then s
  else String.ofList ('\x27' :: quoteChars s.toList ++ ['\x27'])

end NestShell.Text.Words

import NestShell.Pattern.Reader
import NestShell.Text.LetterCase
/-!
Matching a pattern by trying its choices in order. What follows a part of a pattern is a goal: a
part matches where it can go on to its goal, and of several ways the first that reaches the goal
counts. Fuel bounds how deep the parts of one attempt are nested; a longer text has more of it.
-/
namespace NestShell.Pattern

open NestShell.Text

/-- How far an attempt has come, and what its groups matched. -/
structure Point where
  index : Nat
  spans : List (Option (Nat × Nat))

abbrev Goal := Point → Option Point

namespace Match

/-- The form in which characters are compared where case does not count. -/
def fold (ascii : Bool) (c : Char) : List Char :=
  if ascii then [c.toLower] else upperChar ((lowerChar c).headD c)

def sameChar (s : Settings) (code : Nat) (c : Char) : Bool :=
  c.toNat == code || (s.ignoreCase && fold s.ascii (Char.ofNat code) == fold s.ascii c)

def isAsciiWord (c : Char) : Bool := c.isAlphanum || c == '_'

def isAsciiBlank (c : Char) : Bool := c == ' ' || ('\t' ≤ c && c ≤ '\r')

def inCategory (s : Settings) (c : Char) : Category → Bool
  | .digit => if s.ascii then c.isDigit else isDecimalDigit c
  | .space => if s.ascii then isAsciiBlank c else isBlank c
  | .word => if s.ascii then isAsciiWord c else isWordChar c

/-- The characters that stand for one where case does not count. -/
def variants (s : Settings) (c : Char) : List Char :=
  if s.ignoreCase then
    let folded := fold s.ascii c
    [c, (lowerChar c).headD c] ++ (if folded.length == 1 then folded else [])
  else [c]

def inItem (s : Settings) (c : Char) : SetItem → Bool
  | .char code => sameChar s code c
  | .range low high => (variants s c).any fun d => low ≤ d.toNat && d.toNat ≤ high
  | .category k negated => inCategory s c k != negated

def isWordAt (s : Settings) (chars : Array Char) (i : Nat) : Bool :=
  (chars[i]?.map fun c => inCategory s c .word).getD false

/-- Whether a word begins or ends before a character. -/
def isEdge (s : Settings) (chars : Array Char) (i : Nat) : Bool :=
  let before := i != 0 && isWordAt s chars (i - 1)
  before != isWordAt s chars i

def isAt (s : Settings) (chars : Array Char) (i : Nat) : Place → Bool
  | .lineStart => i == 0 || (s.multiline && chars[i - 1]? == some '\n')
  | .lineEnd =>
    i == chars.size || (chars[i]? == some '\n' && (s.multiline || i + 1 == chars.size))
  | .textStart => i == 0
  | .textEnd => i == chars.size
  | .wordEdge => !chars.isEmpty && isEdge s chars i
  | .noWordEdge => !chars.isEmpty && !isEdge s chars i

def spanOf? (p : Point) (group : Nat) : Option (Nat × Nat) := (p.spans[group - 1]?).getD none

/-- Matches one character of a kind. -/
def step (chars : Array Char) (test : Char → Bool) (goal : Goal) : Goal := fun p =>
  match chars[p.index]? with
  | some c => if test c then goal { p with index := p.index + 1 } else none
  | none => none

/-- Matches what a group matched. -/
def again (s : Settings) (chars : Array Char) (group : Nat) (goal : Goal) : Goal := fun p =>
  match spanOf? p group with
  | none => none
  | some (low, high) =>
    let same (i : Nat) : Bool :=
      match chars[low + i]?, chars[p.index + i]? with
      | some c, some d => sameChar s c.toNat d
      | _, _ => false
    if (List.range (high - low)).all same then goal { p with index := p.index + (high - low) }
    else none

mutual

def nodes (chars : Array Char) : Nat → Settings → List Node → Goal → Goal
  | 0, _, _, _ => fun _ => none
  | _ + 1, _, [], goal => goal
  | fuel + 1, s, n :: ns, goal => node chars fuel s n (fun p => nodes chars fuel s ns goal p)

def node (chars : Array Char) : Nat → Settings → Node → Goal → Goal
  | 0, _, _, _ => fun _ => none
  | fuel + 1, s, n, goal =>
    match n with
    | .char code => step chars (sameChar s code) goal
    | .any => step chars (fun c => s.dotAll || c != '\n') goal
    | .set negated items => step chars (fun c => items.any (inItem s c) != negated) goal
    | .place k => fun p => if isAt s chars p.index k then goal p else none
    | .group index on off body => fun p =>
      let inner := (s.union on).without off
      match index with
      | none => nodes chars fuel inner body goal p
      | some g =>
        nodes chars fuel inner body
          (fun q => goal { q with spans := q.spans.set (g - 1) (some (p.index, q.index)) }) p
    | .atomic body => fun p => (nodes chars fuel s body some p).bind goal
    | .branch bs => fun p => bs.findSome? fun b => nodes chars fuel s b goal p
    | .repeated .possessive least most body => fun p =>
      (repeats chars fuel s .greedy least most body none some p).bind goal
    | .repeated greed least most body => repeats chars fuel s greed least most body none goal
    | .reference g => again s chars g goal
    | .look ahead negated body => fun p =>
      let width := if ahead then 0 else (Reader.widthOfAll [] body).1
      let inside :=
        if p.index < width then none
        else nodes chars fuel s body some { p with index := p.index - width }
      match inside, negated with
      | some q, false => goal { q with index := p.index }
      | none, true => goal p
      | _, _ => none
    | .conditional g yes no => fun p =>
      nodes chars fuel s (if (spanOf? p g).isSome then yes else no) goal p

/-- Matches a body again and again: first as often as needed, then as often as it can, or as seldom
as the goal allows. Past the least number a repetition that matched nothing is not repeated:
`last` is where the repetition before began. -/
def repeats (chars : Array Char) : Nat → Settings → Greed → Nat → Option Nat → List Node →
    Option Nat → Goal → Goal
  | 0, _, _, _, _, _, _, _ => fun _ => none
  | fuel + 1, s, greed, least, most, body, last, goal => fun p =>
    let once (last : Option Nat) : Option Point :=
      nodes chars fuel s body
        (fun q => repeats chars fuel s greed (least - 1) (most.map (· - 1)) body last goal q) p
    if least > 0 then once none
    else
      let another (_ : Unit) : Option Point :=
        if most == some 0 || last == some p.index then none else once (some p.index)
      match greed with
      | .lazy => (goal p).orElse another
      | _ => (another ()).orElse fun _ => goal p

end

/-- Deeper than the parts of any attempt on a text of some length are nested. -/
def depth (length : Nat) : Nat := 1000000 * (length + 1)

end Match

/-- Where a match that begins at a character ends, and its groups. -/
def matchAt? (p : Pattern) (chars : Array Char) (start : Nat) : Option Point :=
  Match.nodes chars (Match.depth chars.size) p.settings p.nodes some
    ⟨start, List.replicate p.groups none⟩

/-- The match that begins where the text does. -/
def matchStart? (p : Pattern) (text : String) : Option Point :=
  p.matchAt? text.toList.toArray 0

/-- Whether the pattern matches anywhere in a text. -/
def occursIn (p : Pattern) (text : String) : Bool :=
  let chars := text.toList.toArray
  (List.range (chars.size + 1)).any fun i => (p.matchAt? chars i).isSome

/-- What a group of a match in a text matched. -/
def Point.group? (m : Point) (text : String) (group : Nat) : Option String :=
  (Match.spanOf? m group).map fun (low, high) =>
    String.ofList ((text.toList.drop low).take (high - low))

end NestShell.Pattern

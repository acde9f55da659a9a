import NestShell.Pattern.Tree
import NestShell.Text.Blank
import NestShell.Text.Letters
import NestShell.Text.Quoted
/-!
Patterns read from their text. A text that is no pattern has one fault, with the position that it
is about.
-/
namespace NestShell.Pattern

open NestShell.Text

/-- Why a text is no pattern. -/
inductive Fault where
  | at (message : String) (position : Nat)
  | plain (message : String)
  /-- A number of repetitions that nothing can count. -/
  | countTooLarge
  | outOfFuel
  deriving DecidableEq, Repr

/-- The message of a fault in a pattern text; where the text has several lines, the line and the
column are named as well. -/
def Fault.message (text : String) : Fault → String
  | .at m p =>
    let before := text.toList.take p
    let place :=
      if containsChar '\n' text then
        let line := before.count '\n' + 1
        let column := (before.reverse.takeWhile (· != '\n')).length + 1
        " (line " ++ toString line ++ ", column " ++ toString column ++ ")"
      else ""
    m ++ " at position " ++ toString p ++ place
  | .plain m => m
  | .countTooLarge => "the repetition number is too large"
  | .outOfFuel => "pattern too deep"

structure Reading where
  chars : Array Char
  index : Nat := 0
  /-- The next character, or an escape of two characters; nothing at the end. -/
  next : List Char := []
  settings : Settings
  /-- The groups so far, by number; one that is closed has its width. -/
  groups : List (Option (Nat × Option Nat)) := []
  names : List (String × Nat) := []
  /-- How many groups there were where the outermost look back began. -/
  lookBack : Option Nat := none
  /-- Numbers that conditions refer to, with their positions. -/
  awaited : List (Nat × Nat) := []

abbrev Reader := EStateM Fault Reading

namespace Reader

variable {α : Type}

def tell : Reader Nat := do
  let r ← get
  return r.index - r.next.length

/-- Fails `back` characters before the next one. -/
def fail (message : String) (back : Nat) : Reader α := do throw (.at message ((← tell) - back))

def advance : Reader Unit := do
  let r ← get
  match r.chars[r.index]? with
  | none => set { r with next := [] }
  | some '\\' =>
    match r.chars[r.index + 1]? with
    | none => throw (.at "bad escape (end of pattern)" (r.chars.size - 1))
    | some c => set { r with index := r.index + 2, next := ['\\', c] }
  | some c => set { r with index := r.index + 1, next := [c] }

def peek : Reader (List Char) := do return (← get).next

def take : Reader (List Char) := do
  let t ← peek
  advance
  return t

def accept (c : Char) : Reader Bool := do
  if (← peek) == [c] then
    advance
    return true
  else return false

def seek (index : Nat) : Reader Unit := do
  modify fun r => { r with index := index }
  advance

/-- At most `n` characters of a class. -/
def takeUpTo (p : Char → Bool) : Nat → Reader (List Char)
  | 0 => return []
  | n + 1 => do
    match ← peek with
    | [c] =>
      if p c then
        advance
        return c :: (← takeUpTo p n)
      else return []
    | _ => return []

/-- The characters before a closing one. -/
def takeUntil (close : Char) (what : String) : Nat → List Char → Reader (List Char)
  | 0, _ => throw .outOfFuel
  | fuel + 1, acc => do
    match ← take with
    | [] =>
      if acc.isEmpty then fail ("missing " ++ what) 0
      else fail ("missing " ++ close.toString ++ ", unterminated name") acc.length
    | t =>
      if t == [close] then
        if acc.isEmpty then fail ("missing " ++ what) 1 else return acc
      else takeUntil close what fuel (acc ++ t)

def size : Reader Nat := do return (← get).chars.size + 2

def nameUntil (close : Char) (what : String) : Reader String := do
  return String.ofList (← takeUntil close what (← size) [])

/-! ## Escapes -/

def hexValue (cs : List Char) : Nat :=
  cs.foldl (fun n c => 16 * n + (if c.isDigit then c.toNat - 48 else c.toLower.toNat - 87)) 0

def isHex (c : Char) : Bool :=
  c.isDigit || ('a' ≤ c && c ≤ 'f') || ('A' ≤ c && c ≤ 'F')

def isOctal (c : Char) : Bool := '0' ≤ c && c ≤ '7'

def octalValue (cs : List Char) : Nat := cs.foldl (fun n c => 8 * n + (c.toNat - 48)) 0

def decimalValue (cs : List Char) : Nat := cs.foldl (fun n c => 10 * n + (c.toNat - 48)) 0

def simpleEscape? : Char → Option Nat
  | 'a' => some 7
  | 'b' => some 8
  | 'f' => some 12
  | 'n' => some 10
  | 'r' => some 13
  | 't' => some 9
  | 'v' => some 11
  | '\\' => some 92
  | _ => none

def categoryOf? : Char → Option SetItem
  | 'd' => some (.category .digit false)
  | 'D' => some (.category .digit true)
  | 's' => some (.category .space false)
  | 'S' => some (.category .space true)
  | 'w' => some (.category .word false)
  | 'W' => some (.category .word true)
  | _ => none

def placeOf? : Char → Option Place
  | 'A' => some .textStart
  | 'b' => some .wordEdge
  | 'B' => some .noWordEdge
  | 'Z' => some .textEnd
  | _ => none

/-- A character given by a fixed number of digits. -/
def hexEscape (c : Char) (digits : Nat) : Reader Nat := do
  let ds ← takeUpTo isHex digits
  if ds.length == digits then
    let n := hexValue ds
    if n ≥ 0x110000 then
      fail ("bad escape \\" ++ String.ofList (c :: ds)) (digits + 2)
    return n
  else fail ("incomplete escape \\" ++ String.ofList (c :: ds)) (ds.length + 2)

def octalTooLarge (ds : List Char) : Reader α :=
  fail ("octal escape value \\" ++ String.ofList ds ++ " outside of range 0-0o377") (ds.length + 1)

def badEscape (c : Char) : Reader α := fail ("bad escape \\" ++ c.toString) 2

/-- An escape that means the same inside sets and outside. -/
def commonEscape (c : Char) : Reader Nat := do
  match c with
  | 'x' => hexEscape c 2
  | 'u' => hexEscape c 4
  | 'U' => hexEscape c 8
  | 'N' =>
    if !(← accept '\x7b') then fail "missing \x7b" 0
    let n ← nameUntil '\x7d' "character name"
    fail ("undefined character name " ++ quoted n) (n.length + 4)
  | _ => if c.isAlpha then badEscape c else return c.toNat

/-- An escape inside a set. -/
def setEscape (c : Char) : Reader SetItem := do
  match simpleEscape? c, categoryOf? c with
  | some n, _ => return .char n
  | none, some item => return item
  | none, none =>
    if isOctal c then
      let ds := c :: (← takeUpTo isOctal 2)
      let n := octalValue ds
      if n > 0o377 then octalTooLarge ds else return .char n
    else if c.isDigit then badEscape c
    else return .char (← commonEscape c)

def isClosed (r : Reading) (group : Nat) : Bool :=
  group == 0 || ((r.groups[group - 1]?).getD none).isSome

/-- Groups referred to inside a look back must be closed before it. -/
def checkLookBack (group : Nat) : Reader Unit := do
  let r ← get
  match r.lookBack with
  | none => return
  | some limit =>
    if !isClosed r group then fail "cannot refer to an open group" 0
    if group ≥ limit then
      fail "cannot refer to group defined in the same lookbehind subpattern" 0

def reference (group length : Nat) : Reader Node := do
  let r ← get
  if group < r.groups.length + 1 then
    if !isClosed r group then fail "cannot refer to an open group" length
    checkLookBack group
    return .reference group
  else fail ("invalid group reference " ++ toString group) (length - 1)

/-- An escape outside sets. -/
def escape (c : Char) : Reader Node := do
  match categoryOf? c, placeOf? c, simpleEscape? c with
  | some item, _, _ => return .set false [item]
  | none, some p, _ => return .place p
  | none, none, some n => return .char n
  | none, none, none =>
    if c == '0' then
      let ds := c :: (← takeUpTo isOctal 2)
      return .char (octalValue ds)
    else if c.isDigit then
      let second ← takeUpTo Char.isDigit 1
      match second with
      | [d] =>
        let third ← if isOctal c && isOctal d then takeUpTo isOctal 1 else pure []
        match third with
        | [e] =>
          let n := octalValue [c, d, e]
          if n > 0o377 then octalTooLarge [c, d, e] else return .char n
        | _ => reference (decimalValue [c, d]) 3
      | _ => reference (decimalValue [c]) 2
    else return .char (← commonEscape c)

/-! ## Widths -/

/-- The least width that counts as unbounded. -/
def unbounded : Nat := Nat.pow 2 64

mutual
/-- The least and the greatest number of characters that a pattern matches. -/
def widthOf (groups : List (Option (Nat × Option Nat))) : Node → Nat × Option Nat
  | .char _ | .any | .set .. => (1, some 1)
  | .place _ | .look .. => (0, some 0)
  | .group _ _ _ b => widthOfAll groups b
  | .atomic b => widthOfAll groups b
  | .branch bs => widthOfBranches groups bs
  | .repeated _ lo hi b =>
    let (l, h) := widthOfAll groups b
    (l * lo, match h, hi with
      | some 0, _ => some 0
      | some h, some n => some (h * n)
      | _, _ => none)
  | .reference n => ((groups[n - 1]?).getD none).getD (0, some 0)
  | .conditional _ y n =>
    let (l, h) := widthOfAll groups y
    let (l', h') := widthOfAll groups n
    (min l l', match h, h' with
      | some a, some b => some (max a b)
      | _, _ => none)

def widthOfAll (groups : List (Option (Nat × Option Nat))) : List Node → Nat × Option Nat
  | [] => (0, some 0)
  | n :: ns =>
    let (l, h) := widthOf groups n
    let (l', h') := widthOfAll groups ns
    (l + l', match h, h' with
      | some a, some b => some (a + b)
      | _, _ => none)

def widthOfBranches (groups : List (Option (Nat × Option Nat))) :
    List (List Node) → Nat × Option Nat
  | [] => (0, some 0)
  | [b] => widthOfAll groups b
  | b :: bs =>
    let (l, h) := widthOfAll groups b
    let (l', h') := widthOfBranches groups bs
    (min l l', match h, h' with
      | some x, some y => some (max x y)
      | _, _ => none)
end

/-! ## Sets -/

def unterminatedSet (start : Nat) : Reader α := do
  throw (.at "unterminated character set" start)

def setItem (t : List Char) : Reader SetItem := do
  match t with
  | ['\\', c] => setEscape c
  | c :: _ => return .char c.toNat
  | [] => throw .outOfFuel

/-- The members of a set up to its closing bracket. -/
def setItems (start : Nat) : Nat → List SetItem → Reader (List SetItem)
  | 0, _ => throw .outOfFuel
  | fuel + 1, acc => do
    let t ← take
    if t.isEmpty then unterminatedSet start
    else if t == [']'] && !acc.isEmpty then return acc
    else
      let low ← setItem t
      if !(← accept '-') then setItems start fuel (acc ++ [low])
      else
        let u ← take
        if u.isEmpty then unterminatedSet start
        else if u == [']'] then return acc ++ [low, .char 45]
        else
          let high ← setItem u
          let bad : Reader (List SetItem) :=
            fail ("bad character range " ++ String.ofList t ++ "-" ++ String.ofList u)
              (t.length + 1 + u.length)
          match low, high with
          | .char a, .char b =>
            if b < a then bad else setItems start fuel (acc ++ [.range a b])
          | _, _ => bad

def readSet (start : Nat) : Reader Node := do
  let negated ← accept '^'
  return .set negated (← setItems start (← size) [])

/-! ## Repetition -/

def largestCount : Nat := 4294967295

/-- The bounds in braces; nothing where they are none, and the brace is a character. -/
def readBounds (start : Nat) : Reader (Option (Nat × Option Nat)) := do
  if (← peek) == ['\x7d'] then return none
  else
    let n ← size
    let lo ← takeUpTo Char.isDigit n
    let hi ← if ← accept ',' then takeUpTo Char.isDigit n else pure lo
    if !(← accept '\x7d') then
      seek start
      return none
    else
      let least := decimalValue lo
      if least ≥ largestCount then throw .countTooLarge
      if hi.isEmpty then return some (least, none)
      else
        let most := decimalValue hi
        if most ≥ largestCount then throw .countTooLarge
        if most < least then
          throw (.at "min repeat greater than max repeat" start)
        return some (least, some most)

/-- Repeats the last node of a sequence. -/
def repeatLast (start : Nat) (bounds : Nat × Option Nat) (nodes : List Node) :
    Reader (List Node) := do
  let stop (message : String) : Reader (List Node) := throw (.at message (start - 1))
  match nodes.getLast? with
  | none | some (.place _) => stop "nothing to repeat"
  | some (.repeated ..) => stop "multiple repeat"
  | some n =>
    let greed ← match ← peek with
      | ['?'] => advance *> pure Greed.lazy
      | ['+'] => advance *> pure Greed.possessive
      | _ => pure Greed.greedy
    return nodes.dropLast ++ [.repeated greed bounds.1 bounds.2 [n]]

/-! ## Groups -/

def flagOf? : Char → Option Settings
  | 'i' => some { ignoreCase := true }
  | 'm' => some { multiline := true }
  | 's' => some { dotAll := true }
  | 'x' => some { verbose := true }
  | 'a' => some { ascii := true }
  | 'u' | 't' | 'L' => some {}
  | _ => none

def isTypeFlag (c : Char) : Bool := c == 'a' || c == 'u' || c == 'L'

/-- The flags that are turned on, and the character that ends them. -/
def flagsOn (seen : List Char) (on : Settings) : Nat → Char → Reader (List Char × Settings × Char)
  | 0, _ => throw .outOfFuel
  | fuel + 1, c => do
    if c == 'L' then fail "bad inline flags: cannot use 'L' flag with a str pattern" 0
    if isTypeFlag c && seen.any fun d => isTypeFlag d && d != c then
      fail "bad inline flags: flags 'a', 'u' and 'L' are incompatible" 0
    let on := on.union ((flagOf? c).getD {})
    match ← take with
    | [] => fail "missing -, : or )" 0
    | [d] =>
      if d == ')' || d == '-' || d == ':' then return (c :: seen, on, d)
      else if (flagOf? d).isNone then
        fail (if isLetter d then "unknown flag" else "missing -, : or )") 1
      else flagsOn (c :: seen) on fuel d
    | t => fail "missing -, : or )" t.length

/-- The flags that are turned off, up to the colon. -/
def flagsOff (off : Settings) : Nat → Char → Reader Settings
  | 0, _ => throw .outOfFuel
  | fuel + 1, c => do
    if isTypeFlag c then fail "bad inline flags: cannot turn off flags 'a', 'u' and 'L'" 0
    let off := off.union ((flagOf? c).getD {})
    match ← take with
    | [] => fail "missing :" 0
    | [':'] => return off
    | [d] =>
      if (flagOf? d).isNone then fail (if isLetter d then "unknown flag" else "missing :") 1
      else flagsOff off fuel d
    | t => fail "missing :" t.length

/-- The flags of a group; nothing for flags of the whole pattern. -/
def readFlags (c : Char) : Reader (Option (Settings × Settings)) := do
  let n ← size
  let (seen, on, last) ← if c == '-' then pure ([], {}, '-') else flagsOn [] {} n c
  if last == ')' then
    modify fun r => { r with settings := r.settings.union on }
    return none
  else
    if seen.contains 't' then fail "bad inline flags: cannot turn on global flag" 1
    let off ← if last == '-' then do
        match ← take with
        | [] => fail "missing flag" 0
        | [d] =>
          if (flagOf? d).isNone then fail (if isLetter d then "unknown flag" else "missing flag") 1
          else flagsOff {} n d
        | t => fail "missing flag" t.length
      else pure {}
    if on.overlaps off then fail "bad inline flags: flag turned on and off" 1
    return some (on, off)

def checkName (name : String) : Reader Unit := do
  if !isIdentifier name then
    fail ("bad character in group name " ++ quoted name) (name.length + 1)

def unterminatedGroup (start : Nat) : Reader α :=
  throw (.at "missing ), unterminated subpattern" start)

def openGroup (name : Option String) : Reader Nat := do
  let r ← get
  let n := r.groups.length + 1
  let names ← match name with
    | none => pure r.names
    | some s =>
      match r.names.lookup s with
      | some m =>
        fail ("redefinition of group name " ++ quoted s ++ " as group " ++ toString n ++
          "; was group " ++ toString m) (s.length + 1)
      | none => pure (r.names ++ [(s, n)])
  set { r with groups := r.groups ++ [none], names := names }
  return n

def closeGroup (n : Nat) (body : List Node) : Reader Unit :=
  modify fun r => { r with groups := r.groups.set (n - 1) (some (widthOfAll r.groups body)) }

/-- The group that a condition names. -/
def conditionGroup (name : String) : Reader Nat := do
  let back := name.length + 1
  if isIdentifier name then
    match (← get).names.lookup name with
    | some g => return g
    | none => fail ("unknown group name " ++ quoted name) back
  else if name.toList.all Char.isDigit then
    let g := decimalValue name.toList
    if g == 0 then fail "bad group number" back
    let p ← tell
    modify fun r =>
      if (r.awaited.lookup g).isSome then r else { r with awaited := r.awaited ++ [(g, p - back)] }
    return g
  else fail ("bad character in group name " ++ quoted name) back

/-- What an opening bracket and its mark begin. -/
inductive Opening where
  | comment
  | settings
  | reference (n : Node)
  | look (ahead negated : Bool)
  | condition (group : Nat)
  | atomic
  | group (name : Option String) (captures : Bool) (on off : Settings)

def skipComment (start : Nat) : Nat → Reader Unit
  | 0 => throw .outOfFuel
  | fuel + 1 => do
    if (← peek).isEmpty then throw (.at "missing ), unterminated comment" start)
    if (← take) == [')'] then return else skipComment start fuel

def namedOpening : Reader Opening := do
  if ← accept '<' then
    let name ← nameUntil '>' "group name"
    checkName name
    return .group (some name) true {} {}
  else if ← accept '=' then
    let name ← nameUntil ')' "group name"
    checkName name
    match (← get).names.lookup name with
    | none => fail ("unknown group name " ++ quoted name) (name.length + 1)
    | some g =>
      if !isClosed (← get) g then fail "cannot refer to an open group" (name.length + 1)
      checkLookBack g
      return .reference (.reference g)
  else
    match ← take with
    | [] => fail "unexpected end of pattern" 0
    | t => fail ("unknown extension ?P" ++ String.ofList t) (t.length + 2)

def readOpening (start : Nat) : Reader Opening := do
  if !(← accept '?') then return .group none true {} {}
  else
    match ← take with
    | [] => fail "unexpected end of pattern" 0
    | ['P'] => namedOpening
    | [':'] => return .group none false {} {}
    | ['#'] =>
      skipComment start (← size)
      return .comment
    | ['='] => return .look true false
    | ['!'] => return .look true true
    | ['<'] =>
      match ← take with
      | [] => fail "unexpected end of pattern" 0
      | ['='] => return .look false false
      | ['!'] => return .look false true
      | t => fail ("unknown extension ?<" ++ String.ofList t) (t.length + 2)
    | ['('] => return .condition (← conditionGroup (← nameUntil ')' "group name"))
    | ['>'] => return .atomic
    | [c] =>
      if c == '-' || (flagOf? c).isSome then
        match ← readFlags c with
        | none => return .settings
        | some (on, off) => return .group none false on off
      else fail ("unknown extension ?" ++ c.toString) 2
    | t => fail ("unknown extension ?" ++ String.ofList t) (t.length + 1)

/-! ## Sequences and alternatives -/

structure Inside where
  verbose : Bool
  /-- Whether the sequence stands in a group. -/
  nested : Bool
  /-- Whether nothing of the pattern stands before the sequence. -/
  first : Bool

/-- Skips the rest of a line. -/
def skipLine : Nat → Reader Unit
  | 0 => throw .outOfFuel
  | fuel + 1 => do
    let t ← take
    if t.isEmpty || t == ['\n'] then return else skipLine fuel

def isPatternBlank (c : Char) : Bool :=
  c == ' ' || c == '\t' || c == '\n' || c == '\r' || c == '\x0b' || c == '\x0c'

mutual

/-- Alternatives between bars. -/
def alternatives : Nat → Inside → List (List Node) → Reader (List Node)
  | 0, _, _ => throw .outOfFuel
  | fuel + 1, place, done => do
    let body ← sequence fuel place []
    let place' := { place with first := false }
    if ← accept '|' then
      let r ← get
      let verbose := if place.nested then place.verbose else r.settings.verbose
      alternatives fuel { place' with verbose := verbose } (done ++ [body])
    else
      match done with
      | [] => return body
      | _ => return [.branch (done ++ [body])]

def groupBody : Nat → Bool → Nat → Reader (List Node)
  | 0, _, _ => throw .outOfFuel
  | fuel + 1, verbose, start => do
    let body ← alternatives fuel ⟨verbose, true, false⟩ []
    if !(← accept ')') then unterminatedGroup start
    return body

/-- Nodes one after another. -/
def sequence : Nat → Inside → List Node → Reader (List Node)
  | 0, _, _ => throw .outOfFuel
  | fuel + 1, place, nodes => do
    let t ← peek
    if t.isEmpty || t == ['|'] || t == [')'] then return nodes
    else
      advance
      let more (n : Node) : Reader (List Node) := sequence fuel place (nodes ++ [n])
      let verbose := place.verbose
      match t with
      | ['\\', c] => more (← escape c)
      | [c] =>
        if verbose && isPatternBlank c then sequence fuel place nodes
        else if verbose && c == '#' then
          skipLine (← size)
          sequence fuel place nodes
        else
          match c with
          | '.' => more .any
          | '^' => more (.place .lineStart)
          | '$' => more (.place .lineEnd)
          | '[' => more (← readSet ((← tell) - 1))
          | '*' => sequence fuel place (← repeatLast (← tell) (0, none) nodes)
          | '+' => sequence fuel place (← repeatLast (← tell) (1, none) nodes)
          | '?' => sequence fuel place (← repeatLast (← tell) (0, some 1) nodes)
          | '\x7b' =>
            let start ← tell
            match ← readBounds start with
            | none => more (.char c.toNat)
            | some bounds => sequence fuel place (← repeatLast start bounds nodes)
          | '(' =>
            let start := (← tell) - 1
            match ← readOpening start with
            | .comment => sequence fuel place nodes
            | .settings =>
              if !place.first || !nodes.isEmpty then
                throw (.at "global flags not at the start of the expression" start)
              sequence fuel { place with verbose := (← get).settings.verbose } nodes
            | .reference n => more n
            | .look ahead negated =>
              let r ← get
              if !ahead && r.lookBack.isNone then
                set { r with lookBack := some (r.groups.length + 1) }
              let body ← alternatives fuel ⟨verbose, true, false⟩ []
              if !ahead then modify fun s => { s with lookBack := r.lookBack }
              if !(← accept ')') then unterminatedGroup start
              more (.look ahead negated body)
            | .condition g =>
              checkLookBack g
              let yes ← sequence fuel ⟨verbose, true, false⟩ []
              let no ← if ← accept '|' then do
                  let no ← sequence fuel ⟨verbose, true, false⟩ []
                  if (← peek) == ['|'] then
                    fail "conditional backref with more than two branches" 0
                  pure no
                else pure []
              if !(← accept ')') then unterminatedGroup start
              more (.conditional g yes no)
            | .atomic => more (.atomic (← groupBody fuel verbose start))
            | .group name captures on off =>
              let n? ← if captures then some <$> openGroup name else pure none
              let inner := (verbose || on.verbose) && !off.verbose
              let body ← groupBody fuel inner start
              match n? with
              | some n => closeGroup n body
              | none => pure ()
              more (.group n? on off body)
          | _ => more (.char c.toNat)
      | _ => throw .outOfFuel

end

/-- Looks back must match a fixed number of characters. -/
def fixedLooks (groups : List (Option (Nat × Option Nat))) : Nat → List Node → Bool
  | 0, _ => true
  | fuel + 1, nodes => nodes.all fun n =>
    match n with
    | .look ahead _ b =>
      let (l, h) := widthOfAll groups b
      (ahead || h == some l) && fixedLooks groups fuel b
    | .group _ _ _ b | .atomic b | .repeated _ _ _ b => fixedLooks groups fuel b
    | .branch bs => bs.all (fixedLooks groups fuel)
    | .conditional _ y m => fixedLooks groups fuel y && fixedLooks groups fuel m
    | _ => true

end Reader

end NestShell.Pattern

namespace NestShell

/-- A pattern: its nodes, its settings, and the number of its groups. -/
structure Pattern where
  nodes : List Pattern.Node
  settings : Pattern.Settings := {}
  groups : Nat := 0

namespace Pattern

/-- Reads a pattern. -/
def read (text : String) (settings : Settings) : Except Fault Pattern :=
  let chars := text.toList.toArray
  let fuel := 4 * chars.size + 16
  let p : Reader Pattern := do
    Reader.advance
    let nodes ← Reader.alternatives fuel ⟨settings.verbose, false, true⟩ []
    if !(← Reader.peek).isEmpty then Reader.fail "unbalanced parenthesis" 0
    let r ← get
    match r.awaited.find? fun (g, _) => g ≥ r.groups.length + 1 with
    | some (g, p) => throw (.at ("invalid group reference " ++ toString g) p)
    | none => pure ()
    if !Reader.fixedLooks r.groups fuel nodes then
      throw (.plain "look-behind requires fixed-width pattern")
    return { nodes := nodes, settings := r.settings, groups := r.groups.length }
  match p.run { chars := chars, settings := settings } with
  | .ok p _ => .ok p
  | .error f _ => .error f

end Pattern

end NestShell

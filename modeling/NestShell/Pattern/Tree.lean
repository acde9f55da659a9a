/-!
Patterns that texts are searched for: characters and sets of them, repetition, alternatives,
groups, references to what a group matched, and conditions on the surroundings.
-/
namespace NestShell.Pattern

/-- Settings that change how a pattern matches. -/
structure Settings where
  ignoreCase : Bool := false
  multiline : Bool := false
  dotAll : Bool := false
  verbose : Bool := false
  ascii : Bool := false
  deriving DecidableEq, Repr

namespace Settings

/-- All that is on in one of the two. -/
def union (a b : Settings) : Settings where
  ignoreCase := a.ignoreCase || b.ignoreCase
  multiline := a.multiline || b.multiline
  dotAll := a.dotAll || b.dotAll
  verbose := a.verbose || b.verbose
  ascii := a.ascii || b.ascii

/-- All that is on in the first but not in the second. -/
def without (a b : Settings) : Settings where
  ignoreCase := a.ignoreCase && !b.ignoreCase
  multiline := a.multiline && !b.multiline
  dotAll := a.dotAll && !b.dotAll
  verbose := a.verbose && !b.verbose
  ascii := a.ascii && !b.ascii

def overlaps (a b : Settings) : Bool :=
  (a.ignoreCase && b.ignoreCase) || (a.multiline && b.multiline) || (a.dotAll && b.dotAll) ||
    (a.verbose && b.verbose) || (a.ascii && b.ascii)

end Settings

inductive Category where
  | digit
  | space
  | word
  deriving DecidableEq, Repr

inductive SetItem where
  | char (code : Nat)
  | range (low high : Nat)
  | category (c : Category) (negated : Bool)
  deriving DecidableEq, Repr

/-- Places between characters. -/
inductive Place where
  | lineStart
  | lineEnd
  | textStart
  | textEnd
  | wordEdge
  | noWordEdge
  deriving DecidableEq, Repr

inductive Greed where
  | greedy
  | lazy
  | possessive
  deriving DecidableEq, Repr

inductive Node where
  | char (code : Nat)
  | any
  | set (negated : Bool) (items : List SetItem)
  | place (p : Place)
  /-- A group, with its number if what it matches is kept, and settings inside it. -/
  | group (index : Option Nat) (on off : Settings) (body : List Node)
  | atomic (body : List Node)
  | branch (alternatives : List (List Node))
  | repeated (greed : Greed) (least : Nat) (most : Option Nat) (body : List Node)
  | reference (index : Nat)
  | look (ahead negated : Bool) (body : List Node)
  | conditional (index : Nat) (yes no : List Node)

end NestShell.Pattern

import NestShell.Options.Schema
import NestShell.Table
/-!
The flags of a schema beside two tables, in which they are found by their short and by their long
forms. A flag is added to one of the three after another, so both its forms are looked up before the
first of them changes. A schema keeps the list alone and searches it.
-/
namespace NestShell.Options

/-- The short form as a text. -/
def Flag.shortForm? (f : Flag) : Option String := f.short.map Char.toString

structure Index where
  flags : List Flag := []
  shorts : List (String × Flag) := []
  longs : List (String × Flag) := []

namespace Index

def findShort? (x : Index) (form : String) : Option Flag := x.shorts.lookup form

def findLong? (x : Index) (form : String) : Option Flag := x.longs.lookup form

/-- Enters a flag in a table under its form, if it has one. -/
def enter (form : Option String) (f : Flag) (t : List (String × Flag)) : List (String × Flag) :=
  match form with
  | some k => Table.set k f t
  | none => t

/-- Refuses a form that a flag has already. -/
def refuseTaken {α : Type} (form : Option α) (find? : Index → α → Option Flag)
    (fault : α → SchemaFault) : EStateM SchemaFault Index Unit := do
  if let some k := form then
    if (find? (← get) k).isSome then throw (fault k)

def add (f : Flag) : EStateM SchemaFault Index Unit := do
  refuseTaken f.short (fun x c => x.findShort? c.toString) .duplicateShort
  refuseTaken f.longForm? findLong? .duplicateLong
  modify fun x => { x with flags := x.flags ++ [f] }
  modify fun x => { x with shorts := enter f.shortForm? f x.shorts }
  modify fun x => { x with longs := enter f.longForm? f x.longs }

end Index

end NestShell.Options

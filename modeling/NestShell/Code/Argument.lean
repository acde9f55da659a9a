import NestShell.Code.Calling
import NestShell.Code.Operation
/-!
Arguments of built-in functions read as what they have to be: whole numbers, texts, bounds.
-/
namespace NestShell.Code.Run

variable (engine : Engine)

/-- A whole number. -/
def asInt (v : Value) : Run Int := do
  match ← index? engine v with
  | some n => return n
  | none =>
    typeError (quoteText (← typeName v) ++ " object cannot be interpreted as an integer")

def asCount (v : Value) : Run Nat := return (← asInt engine v).toNat

/-- A text, or else a complaint made of the class of the value. -/
def asText (v : Value) (complaint : String → String) : Run String := do
  match v with
  | .str s => return s
  | _ => typeError (complaint (← typeName v))

/-- Bounds of a part of a sequence of length `n`, from optional arguments. -/
def asBounds (n : Nat) (args : List Value) : Run (Nat × Nat × Bool) := do
  let part (v? : Option Value) : Run (Option Int) := do
    match v? with
    | some v => slicePart engine v
    | none => return none
  let lo ← part args[0]?
  let hi ← part args[1]?
  let low : Int := match lo with
    | some i => if i < 0 then max 0 (i + n) else i
    | none => 0
  let high : Int := match hi with
    | some i => if i < 0 then max 0 (i + n) else min i n
    | none => n
  return (low.toNat, high.toNat, low ≤ high)

/-- Refuses a number of arguments outside the bounds, for functions that say how many they
take. -/
def checkTaken (name : String) (least most : Nat) (args : List Value) : Run Unit := do
  let n := args.length
  let complain (bound : String) (k : Nat) : Run Unit :=
    typeError (name ++ "() takes " ++ bound ++ toString k ++ " argument" ++ plural k ++ " (" ++
      toString n ++ " given)")
  if n < least then complain "at least " least
  else if n > most then complain "at most " most

/-- Whether any of two values is the other. -/
def sameOrEqual (v w : Value) : Run Bool := do
  if v.same w then return true else engine.equal v w

/-- Where a value first stands among others. -/
def position? (v : Value) : List Value → Nat → Run (Option Nat)
  | [], _ => return none
  | w :: ws, i => do if ← sameOrEqual engine w v then return some i else position? v ws (i + 1)

/-- Keeps the order of equal values; `before` tells whether one stands before another. -/
def sortedBy {α : Type} (before : α → α → Run Bool) (items : List α) : Run (List α) :=
  items.foldlM (fun acc x => do return (← insertBack x acc.reverse).reverse) []
where
  /-- Puts a value into a list sorted backwards. -/
  insertBack (x : α) : List α → Run (List α)
    | [] => return [x]
    | y :: ys => do if ← before x y then return y :: (← insertBack x ys) else return x :: y :: ys

/-- Values in ascending order of themselves or of what a function makes of them. -/
def sortValues (items : List Value) (key : Value) (descending : Bool) : Run (List Value) := do
  let keyed ← items.mapM fun v => do
    if key.isNone then return (v, v) else return (← engine.call key [v] [], v)
  let before (a b : Value × Value) : Run Bool := ordered engine .less deepestOrder a.1 b.1
  if descending then return ((← sortedBy before keyed.reverse).map (·.2)).reverse
  else return (← sortedBy before keyed).map (·.2)

/-- The pairs that make a mapping. -/
def asPairs (v : Value) : Run (List (Value × Value)) := do
  let fromItems : Run (List (Value × Value)) := do
    let items ← engine.elements v
    items.zipIdx.mapM fun (item, i) => do
      let parts ← catchingOnly "TypeError" (engine.elements item) fun _ =>
        typeError ("cannot convert dictionary update sequence element #" ++ toString i ++
          " to a sequence")
      match parts with
      | [k, w] => return (k, w)
      | _ =>
        valueError ("dictionary update sequence element #" ++ toString i ++ " has length " ++
          toString parts.length ++ "; 2 is required")
  match v with
  | .ref a =>
    match ← object a with
    | .dict es => return es
    | .names t _ => return t.entries.map fun (n, w) => (.str n, w)
    | _ => fromItems
  | _ => fromItems

/-- Entries over others, each key checked. -/
def mergeEntries (es more : List (Value × Value)) : Run (List (Value × Value)) := do
  for (k, _) in more do checkKey k
  return more.foldl (fun es (k, v) => setKey k v es) es

end NestShell.Code.Run

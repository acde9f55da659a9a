import NestShell.Code.Format
import NestShell.Code.Lookup
/-!
Operators: truth, equality, order, arithmetic on any values, membership, indices and slices, and
the elements that a value yields.
-/
namespace NestShell.Code

open NestShell.Text

/-- The value under a key. -/
def findKey? (k : Value) (es : List (Value × Value)) : Option Value :=
  (es.find? fun e => keyEqual e.1 k).map (·.2)

/-- Puts a value under a key, which keeps its place if it was there. -/
def setKey (k v : Value) : List (Value × Value) → List (Value × Value)
  | [] => [(k, v)]
  | (l, w) :: es => if keyEqual l k then (l, v) :: es else (l, w) :: setKey k v es

def eraseKey (k : Value) (es : List (Value × Value)) : List (Value × Value) :=
  es.filter fun e => !keyEqual e.1 k

/-- The distinct keys of a list. -/
def distinct (vs : List Value) : List Value :=
  vs.foldl (fun acc v => if acc.any (keyEqual v) then acc else acc ++ [v]) []

/-- The numbers of a range. -/
def rangeLength (lo hi step : Int) : Nat :=
  if step > 0 then ((hi - lo + step - 1).fdiv step).toNat
  else if step < 0 then ((lo - hi - step - 1).fdiv (-step)).toNat
  else 0

def rangeItems (lo hi step : Int) : List Value :=
  (List.range (rangeLength lo hi step)).map fun (i : Nat) => .int (lo + step * (i : Int))

/-- Where an index counts from the end it is below zero. -/
def resolveIndex (n : Nat) (i : Int) : Option Nat :=
  let j := if i < 0 then i + n else i
  if 0 ≤ j && j < n then some j.toNat else none

/-- The bounds of a slice of a sequence of length `n`, and its step. -/
def sliceBounds (n : Nat) (lo hi step : Option Int) : Int × Int × Int :=
  let k := step.getD 1
  let clip (i : Int) : Int :=
    let j := if i < 0 then i + n else i
    if k > 0 then max 0 (min j n) else max (-1) (min j (n - 1))
  let first : Int := if k > 0 then 0 else n - 1
  let last : Int := if k > 0 then n else -1
  ((lo.map clip).getD first, (hi.map clip).getD last, k)

/-- The positions that a slice selects. -/
def slicePositions (n : Nat) (lo hi step : Option Int) : List Nat :=
  let (a, b, k) := sliceBounds n lo hi step
  (List.range (rangeLength a b k)).map fun (i : Nat) => (a + k * (i : Int)).toNat

def select {α : Type} (items : List α) (positions : List Nat) : List α :=
  let a := items.toArray
  positions.filterMap fun i => a[i]?

namespace Run

variable (engine : Engine)

/-! ## Truth, length, elements -/

/-- The number of elements, for values that have one. -/
def length? (v : Value) : Run (Option Nat) := do
  match v with
  | .str s => return some s.length
  | .bytes bs => return some bs.length
  | .tuple vs => return some vs.length
  | .view _ a =>
    match ← object a with
    | .dict es => return some es.length
    | .names t _ => return some t.entries.length
    | _ => return some 0
  | .ref a =>
    match ← object a with
    | .list items => return some items.size
    | .set items _ => return some items.length
    | .dict es => return some es.length
    | .names t _ => return some t.entries.length
    | .range lo hi step => return some (rangeLength lo hi step)
    | .record c _ =>
      match ← definedIn? "__len__" (← order c) with
      | some f =>
        match ← engine.call f [v] [] with
        | .int n => if n < 0 then valueError "__len__() should return >= 0" else return some n.toNat
        | r =>
          typeError (quoteText (← typeName r) ++ " object cannot be interpreted as an integer")
      | none => return none
    | _ => return none
  | _ => return none

def truth (v : Value) : Run Bool := do
  match v with
  | .none | .noValue => return false
  | .bool b => return b
  | .int n => return n != 0
  | .float x => return !(x == 0)
  | .complex re im => return !(re == 0 && im == 0)
  | _ =>
    match ← special? v "__bool__" with
    | some f =>
      match ← engine.call f [v] [] with
      | .bool b => return b
      | r => typeError ("__bool__ should return bool, returned " ++ (← typeName r))
    | none =>
      match ← length? engine v with
      | some n => return n != 0
      | none => return true

def notIterable {α : Type} (v : Value) : Run α := do
  typeError (quoteStart 200 (← typeName v) ++ " object is not iterable")

/-- Calls `__next__` until it stops. -/
def exhaust (iterator : Value) : Nat → List Value → Run (List Value)
  | 0, _ => throw .outOfFuel
  | fuel + 1, acc => do
    let next ← catchingOnly "StopIteration"
      (do return some (← engine.call (← engine.getAttr iterator "__next__") [] []))
      fun _ => return none
    match next with
    | some v => exhaust iterator fuel (v :: acc)
    | none => return acc.reverse

def mostElements : Nat := 1000000

/-- The elements that a loop visits. -/
def elements (v : Value) : Run (List Value) := do
  match v with
  | .str s => return s.toList.map fun c => .str c.toString
  | .bytes bs => return bs.map fun b => .int b.toNat
  | .tuple vs => return vs
  | .view k a =>
    let es ← match ← object a with
      | .dict es => pure es
      | .names t _ => pure (t.entries.map fun (n, w) => (Value.str n, w))
      | _ => pure []
    match k with
    | .keys => return es.map (·.1)
    | .values => return es.map (·.2)
    | .items => return es.map fun (x, w) => .tuple [x, w]
  | .ref a =>
    match ← object a with
    | .list items => return items.toList
    | .set items _ => return items
    | .dict es => return es.map (·.1)
    | .names t _ => return t.entries.map fun (n, _) => .str n
    | .range lo hi step => return rangeItems lo hi step
    | .iterator k items =>
      put a (.iterator k [])
      return items
    | .record c _ =>
      match ← definedIn? "__iter__" (← order c) with
      | some f =>
        let it ← engine.call f [v] []
        if it.same v || (← special? it "__next__").isSome then exhaust engine it mostElements []
        else engine.elements it
      | none => notIterable v
    | _ => notIterable v
  | _ => notIterable v

/-! ## Keys -/

/-- Only values that never change can be keys. -/
def checkKey (v : Value) : Run Unit :=
  match v with
  | .tuple vs => checkParts vs
  | .ref a => checkObject a
  | _ => checkParts ((v.signalFields?.getD []).map (·.2))
where
  checkParts (vs : List Value) : Run Unit := do
    for v in vs do
      match v with
      | .ref a => checkObject a
      | _ => pure ()
  checkObject (a : Nat) : Run Unit := do
    let name ← match ← object a with
      | .list _ => pure "list"
      | .dict _ | .names .. => pure "dict"
      | .set _ false => pure "set"
      | .slice .. => pure "slice"
      | _ => pure ""
    if !name.isEmpty then typeError ("unhashable type: " ++ quoteText name)

/-! ## Equality and order -/

def allEqual : List Value → List Value → Run Bool
  | [], [] => return true
  | a :: as, b :: bs => do if ← engine.equal a b then allEqual as bs else return false
  | _, _ => return false

def entriesEqual (es fs : List (Value × Value)) : Run Bool := do
  if es.length != fs.length then return false
  else es.allM fun (k, v) => do
    match findKey? k fs with
    | some w => engine.equal v w
    | none => return false

def equal (v w : Value) : Run Bool := do
  match v, w with
  | .str a, .str b => return a == b
  | .bytes a, .bytes b => return a == b
  | .tuple a, .tuple b => allEqual engine a b
  | .proceed a, .proceed b => allEqual engine [a] [b]
  | .breakout l a, .breakout m b => allEqual engine [l, a] [m, b]
  | _, _ =>
    match number? v, number? w with
    | some x, some y => return compareNumbers x y == some .eq
    | some x, none => if isComplex x w then return true else otherwise
    | none, some y => if isComplex y v then return true else otherwise
    | none, none => if equalComplex v w then return true else otherwise
where
  otherwise : Run Bool := do
    match ← special? v "__eq__", ← special? w "__eq__" with
    | some f, _ =>
      let r ← engine.call f [v, w] []
      if r matches .notImplemented then return v.same w else truth engine r
    | none, some f =>
      let r ← engine.call f [w, v] []
      if r matches .notImplemented then return v.same w else truth engine r
    | none, none =>
      match v, w with
      | .ref a, .ref b =>
        match ← object a, ← object b with
        | .list x, .list y => allEqual engine x.toList y.toList
        | .dict x, .dict y => entriesEqual engine x y
        | .set x _, .set y _ => return x.length == y.length && x.all fun e => y.any (keyEqual e)
        | .range lo hi k, .range lo' hi' k' =>
          return keysEqual (rangeItems lo hi k) (rangeItems lo' hi' k')
        | _, _ => return a == b
      | _, _ => return v.same w

def orderText : CompareOp → String
  | .less => "<"
  | .lessEqual => "<="
  | .greater => ">"
  | .greaterEqual => ">="
  | .equal => "=="
  | .unequal => "!="
  | .is => "is"
  | .isNot => "is not"
  | .member => "in"
  | .notMember => "not in"

def orderMethod : CompareOp → String
  | .less => "__lt__"
  | .lessEqual => "__le__"
  | .greater => "__gt__"
  | .greaterEqual => "__ge__"
  | .equal => "__eq__"
  | _ => "__ne__"

def mirrored : CompareOp → CompareOp
  | .less => .greater
  | .greater => .less
  | .lessEqual => .greaterEqual
  | .greaterEqual => .lessEqual
  | op => op

def holds (op : CompareOp) : Ordering → Bool
  | .lt => (op matches .less | .lessEqual)
  | .gt => (op matches .greater | .greaterEqual)
  | .eq => (op matches .lessEqual | .greaterEqual)

def compareTexts (a b : String) : Ordering :=
  if a < b then .lt else if a == b then .eq else .gt

def compareLists (a b : List Nat) : Ordering :=
  match a, b with
  | [], [] => .eq
  | [], _ => .lt
  | _, [] => .gt
  | x :: xs, y :: ys => if x < y then .lt else if x > y then .gt else compareLists xs ys

variable (compareWith : CompareOp → Value → Value → Run Bool)

/-- Sequences are ordered by the first elements that differ, then by length. -/
def orderedLists (op : CompareOp) : List Value → List Value → Run Bool
  | [], [] => return holds op .eq
  | [], _ => return holds op .lt
  | _, [] => return holds op .gt
  | a :: as, b :: bs => do
    if ← engine.equal a b then orderedLists op as bs else compareWith op a b

/-- Whether `v` stands before `w`, or after it, as `op` says. -/
def ordered (op : CompareOp) : Nat → Value → Value → Run Bool
  | 0, _, _ => throw .outOfFuel
  | fuel + 1, v, w => do
    let unsupported : Run Bool := do
      typeError (quoteText (orderText op) ++ " not supported between instances of " ++
        quoteText (← typeName v) ++ " and " ++ quoteText (← typeName w))
    match v, w with
    | .str a, .str b => return holds op (compareTexts a b)
    | .bytes a, .bytes b =>
      return holds op (compareLists (a.map UInt8.toNat) (b.map UInt8.toNat))
    | .tuple a, .tuple b => orderedLists engine (fun _ x y => ordered op fuel x y) op a b
    | _, _ =>
      match number? v, number? w with
      | some x, some y =>
        match compareNumbers x y with
        | some o => return holds op o
        | none => return false
      | _, _ =>
        match ← special? v (orderMethod op), ← special? w (orderMethod (mirrored op)) with
        | some f, _ =>
          let r ← engine.call f [v, w] []
          if r matches .notImplemented then unsupported else truth engine r
        | none, some f =>
          let r ← engine.call f [w, v] []
          if r matches .notImplemented then unsupported else truth engine r
        | none, none =>
          match v, w with
          | .ref a, .ref b =>
            match ← object a, ← object b with
            | .list x, .list y =>
              orderedLists engine (fun _ x y => ordered op fuel x y) op x.toList y.toList
            | .set x _, .set y _ =>
              let within (p q : List Value) : Bool := p.all fun e => q.any (keyEqual e)
              return match op with
                | .less => within x y && x.length < y.length
                | .lessEqual => within x y
                | .greater => within y x && y.length < x.length
                | _ => within y x
            | _, _ => unsupported
          | _, _ => unsupported

def deepestOrder : Nat := 1000

/-- Whether a value is among the elements of another. -/
def member (v w : Value) : Run Bool := do
  match w with
  | .str s =>
    match v with
    | .str t => return (s.splitOn t).length > 1 || t.isEmpty
    | _ => typeError ("'in <string>' requires string as left operand, not " ++ (← typeName v))
  | .ref a =>
    match ← object a with
    | .dict es =>
      checkKey v
      return (findKey? v es).isSome
    | .names t _ =>
      match v with
      | .str n => return t.contains n
      | _ => return false
    | .record c _ =>
      match ← definedIn? "__contains__" (← order c) with
      | some f => truth engine (← engine.call f [w, v] [])
      | none => among (← elementsOr a)
    | _ => among (← elementsOr a)
  | .none | .bool _ | .int _ | .float _ | .complex .. | .type _ | .noValue | .proceed _ | .skip
  | .breakout .. => notContainer
  | _ => among (← engine.elements w)
where
  notContainer : Run Bool := do
    typeError ("argument of type " ++ quoteText (← typeName w) ++ " is not iterable")
  among (items : List Value) : Run Bool :=
    items.anyM fun e => do if e.same v then return true else engine.equal e v
  elementsOr (a : Nat) : Run (List Value) := do
    match ← object a with
    | .function _ | .cls _ | .module .. | .error _ | .property .. | .foreign .. => do
      let _ ← notContainer
      return []
    | _ => engine.elements w

def compare (op : CompareOp) (v w : Value) : Run Value := do
  match op with
  | .is => return .bool (v.same w)
  | .isNot => return .bool (!v.same w)
  | .member => return .bool (← member engine v w)
  | .notMember => return .bool (!(← member engine v w))
  | .equal =>
    match ← special? v "__eq__" with
    | some f =>
      let r ← engine.call f [v, w] []
      if r matches .notImplemented then return .bool (← engine.equal v w) else return r
    | none => return .bool (← engine.equal v w)
  | .unequal =>
    match ← special? v "__ne__" with
    | some f => engine.call f [v, w] []
    | none => return .bool (!(← engine.equal v w))
  | op =>
    match ← special? v (orderMethod op) with
    | some f =>
      let r ← engine.call f [v, w] []
      if r matches .notImplemented then return .bool (← ordered engine op deepestOrder v w)
      else return r
    | none => return .bool (← ordered engine op deepestOrder v w)

/-! ## Arithmetic -/

def operatorText : BinaryOp → String
  | .add => "+"
  | .subtract => "-"
  | .multiply => "*"
  | .divide => "/"
  | .floorDivide => "//"
  | .modulo => "%"
  | .power => "** or pow()"
  | .matrix => "@"
  | .bitAnd => "&"
  | .bitOr => "|"
  | .bitXor => "^"
  | .shiftLeft => "<<"
  | .shiftRight => ">>"

def operatorName : BinaryOp → String
  | .add => "add"
  | .subtract => "sub"
  | .multiply => "mul"
  | .divide => "truediv"
  | .floorDivide => "floordiv"
  | .modulo => "mod"
  | .power => "pow"
  | .matrix => "matmul"
  | .bitAnd => "and"
  | .bitOr => "or"
  | .bitXor => "xor"
  | .shiftLeft => "lshift"
  | .shiftRight => "rshift"

def repeated {α : Type} (n : Int) (items : List α) : List α :=
  (List.replicate n.toNat items).flatten

def asCount? : Value → Option Int
  | .int n => some n
  | .bool b => some (if b then 1 else 0)
  | _ => none

/-- A sequence times a number. -/
def multiplied? (v : Value) (n : Int) : Run (Option Value) := do
  match v with
  | .str s => return some (.str (String.ofList (repeated n s.toList)))
  | .bytes bs => return some (.bytes (repeated n bs))
  | .tuple vs => return some (.tuple (repeated n vs))
  | .ref a =>
    match ← object a with
    | .list items => return some (← newList (repeated n items.toList))
    | _ => return none
  | _ => return none

def isSequence (v : Value) : Run Bool := do
  match v with
  | .str _ | .bytes _ | .tuple _ => return true
  | .ref a => return ((← object a) matches .list _)
  | _ => return false

def setOp? (op : BinaryOp) (x y : List Value) : Option (List Value) :=
  match op with
  | .bitOr => some (distinct (x ++ y))
  | .bitAnd => some (x.filter fun e => y.any (keyEqual e))
  | .subtract => some (x.filter fun e => !y.any (keyEqual e))
  | .bitXor => some (x.filter (fun e => !y.any (keyEqual e)) ++
      y.filter fun e => !x.any (keyEqual e))
  | _ => none

/-- An operation on sequences, mappings and sets; `none` where it is not defined for them. -/
def containerOp (op : BinaryOp) (v w : Value) : Run (Option Value) := do
  let concat (kind : String) : Run (Option Value) := do
    typeError ("can only concatenate " ++ kind ++ " (not \"" ++ (← typeName w) ++ "\") to " ++ kind)
  match op, v, w with
  | .add, .str a, .str b => return some (.str (a ++ b))
  | .add, .bytes a, .bytes b => return some (.bytes (a ++ b))
  | .add, .tuple a, .tuple b => return some (.tuple (a ++ b))
  | .add, .str _, _ => concat "str"
  | .add, .tuple _, _ => concat "tuple"
  | .add, .bytes _, _ => typeError ("can't concat " ++ (← typeName w) ++ " to bytes")
  | .modulo, .str s, _ => return some (← percentFormat engine s w)
  | .multiply, _, _ =>
    if ← isSequence v then
      match asCount? w with
      | some n => multiplied? v n
      | none =>
        typeError ("can't multiply sequence by non-int of type " ++ quoteText (← typeName w))
    else if ← isSequence w then
      match asCount? v with
      | some n => multiplied? w n
      | none =>
        typeError ("can't multiply sequence by non-int of type " ++ quoteText (← typeName v))
    else return none
  | _, .ref a, _ =>
    match ← object a with
    | .list x =>
      if op != .add then return none
      else
        match w with
        | .ref b =>
          match ← object b with
          | .list y => return some (← newList (x.toList ++ y.toList))
          | _ => concat "list"
        | _ => concat "list"
    | .dict x =>
      match op, w with
      | .bitOr, .ref b =>
        match ← object b with
        | .dict y => return some (← newDict (y.foldl (fun es (k, u) => setKey k u es) x))
        | _ => return none
      | _, _ => return none
    | .set x frozen =>
      match w with
      | .ref b =>
        match ← object b with
        | .set y _ =>
          match setOp? op x y with
          | some items => return some (← new (.set items frozen))
          | none => return none
        | _ => return none
      | _ => return none
    | _ => return none
  | _, _, _ => return none

/-- What a class of a program makes of an operation, tried from the left, then from the right. -/
def definedOp (op : BinaryOp) (v w : Value) : Run (Option Value) := do
  let left ← match ← special? v ("__" ++ operatorName op ++ "__") with
    | some f => do
      let r ← engine.call f [v, w] []
      pure (if r matches .notImplemented then none else some r)
    | none => pure none
  match left with
  | some r => return some r
  | none =>
    match ← special? w ("__r" ++ operatorName op ++ "__") with
    | some f => do
      let r ← engine.call f [w, v] []
      return if r matches .notImplemented then none else some r
    | none => return none

/-- An operation; `shown` is how a complaint writes its sign. -/
def binaryShown (shown : String) (op : BinaryOp) (v w : Value) : Run Value := do
  match ← numberOp op v w with
  | some r => return r
  | none =>
    match ← definedOp engine op v w with
    | some r => return r
    | none =>
      match ← containerOp engine op v w with
      | some r => return r
      | none =>
        typeError ("unsupported operand type(s) for " ++ shown ++ ": " ++
          quoteText (← typeName v) ++ " and " ++ quoteText (← typeName w))

def binary (op : BinaryOp) (v w : Value) : Run Value := binaryShown engine (operatorText op) op v w

/-- An operation that may change its left operand. -/
def augmented (op : BinaryOp) (v w : Value) : Run Value := do
  let plain : Run Value :=
    binaryShown engine ((if op == .power then "**" else operatorText op) ++ "=") op v w
  match ← special? v ("__i" ++ operatorName op ++ "__") with
  | some f => engine.call f [v, w] []
  | none =>
    match op, v with
    | .add, .ref a =>
      match ← object a with
      | .list items =>
        let more ← engine.elements w
        put a (.list (items ++ more.toArray))
        return v
      | _ => plain
    | .multiply, .ref a =>
      match ← object a, asCount? w with
      | .list items, some n =>
        put a (.list (repeated n items.toList).toArray)
        return v
      | _, _ => plain
    | _, .ref a =>
      match ← object a, w with
      | .set x false, .ref b =>
        match ← object b with
        | .set y _ =>
          match setOp? op x y with
          | some items =>
            put a (.set items false)
            return v
          | none => plain
        | _ => plain
      | .dict x, .ref b =>
        match op, ← object b with
        | .bitOr, .dict y =>
          put a (.dict (y.foldl (fun es (k, u) => setKey k u es) x))
          return v
        | _, _ => plain
      | _, _ => plain
    | _, _ => plain

def unary (op : UnaryOp) (v : Value) : Run Value := do
  let defined (method sign : String) : Run Value := do
    match ← special? v method with
    | some f => engine.call f [v] []
    | none => typeError ("bad operand type for unary " ++ sign ++ ": " ++ quoteText (← typeName v))
  match op, number? v with
  | .not, _ => return .bool (!(← truth engine v))
  | .negative, none =>
    match v with
    | .complex re im => return .complex (-re) (-im)
    | _ => defined "__neg__" "-"
  | .positive, none =>
    match v with
    | .complex .. => return v
    | _ => defined "__pos__" "+"
  | .negative, some (.inl n) => return .int (-n)
  | .negative, some (.inr x) => return .float (-x)
  | .positive, some (.inl n) => return .int n
  | .positive, some (.inr x) => return .float x
  | .invert, some (.inl n) => return .int (-n - 1)
  | .invert, _ => defined "__invert__" "~"

/-! ## Indices -/

def index? (v : Value) : Run (Option Int) := do
  match v with
  | .int n => return some n
  | .bool b => return some (if b then 1 else 0)
  | _ =>
    match ← special? v "__index__" with
    | some f =>
      match ← engine.call f [v] [] with
      | .int n => return some n
      | _ => return none
    | none => return none

def slicePart (v : Value) : Run (Option Int) := do
  if v.isNone then return none
  else
    match ← index? engine v with
    | some n => return some n
    | none =>
      typeError "slice indices must be integers or None or have an __index__ method"

/-- The positions that an index or slice selects. -/
inductive Selection where
  | one (i : Int)
  | several (low high step : Option Int)

/-- Reads an index; `complaint` is made of the class of any other value. -/
def selection (sub : Value) (complaint : String → String) : Run Selection := do
  match sub with
  | .ref a =>
    match ← object a with
    | .slice x y z =>
      let step ← slicePart engine z
      if step == some 0 then valueError "slice step cannot be zero"
      return .several (← slicePart engine x) (← slicePart engine y) step
    | _ => single
  | _ => single
where
  single : Run Selection := do
    match ← index? engine sub with
    | some n => return .one n
    | none => typeError (complaint (← typeName sub))

def indicesMust (kind : String) (t : String) : String :=
  kind ++ " indices must be integers or slices, not " ++ t

def outOfRange {α : Type} (what : String) : Run α := raise "IndexError" (what ++ " out of range")

def pick {α : Type} (items : List α) (what : String) (i : Int) : Run α := do
  match (resolveIndex items.length i).bind fun k => items[k]? with
  | some x => return x
  | none => outOfRange what

/-- The element or elements at an index. -/
def getItem (v sub : Value) : Run Value := do
  match v with
  | .str s =>
    let cs := s.toList
    match ← selection engine sub fun t => "string indices must be integers, not " ++ quoteText t with
    | .one i => return .str (← pick cs "string index" i).toString
    | .several a b k => return .str (String.ofList (select cs (slicePositions cs.length a b k)))
  | .bytes bs =>
    match ← selection engine sub (indicesMust "byte") with
    | .one i => return .int (← pick bs "index" i).toNat
    | .several a b k => return .bytes (select bs (slicePositions bs.length a b k))
  | .tuple vs =>
    match ← selection engine sub (indicesMust "tuple") with
    | .one i => pick vs "tuple index" i
    | .several a b k => return .tuple (select vs (slicePositions vs.length a b k))
  | .ref a =>
    match ← object a with
    | .list items =>
      match ← selection engine sub (indicesMust "list") with
      | .one i => pick items.toList "list index" i
      | .several x y k => newList (select items.toList (slicePositions items.size x y k))
    | .range lo hi step =>
      let n := rangeLength lo hi step
      match ← selection engine sub (indicesMust "range") with
      | .one i =>
        match resolveIndex n i with
        | some k => return .int (lo + step * k)
        | none => outOfRange "range object index"
      | .several x y k =>
        let (p, q, k) := sliceBounds n x y k
        new (.range (lo + step * p) (lo + step * q) (step * k))
    | .dict es =>
      checkKey sub
      match findKey? sub es with
      | some w => return w
      | none => throwValue (.type "KeyError") [sub] {}
    | .names t _ =>
      match sub with
      | .str n =>
        match t.get? n with
        | some w => return w
        | none => throwValue (.type "KeyError") [sub] {}
      | _ => throwValue (.type "KeyError") [sub] {}
    | .record c _ =>
      match ← definedIn? "__getitem__" (← order c) with
      | some f => engine.call f [v, sub] []
      | none => unsupported
    | .cls k => typeError ("type " ++ quoteText k.name ++ " is not subscriptable")
    | _ => unsupported
  | .type t => typeError ("type " ++ quoteText t ++ " is not subscriptable")
  | _ => unsupported
where
  unsupported : Run Value := do
    typeError (quoteStart 200 (← typeName v) ++ " object is not subscriptable")

/-- Replaces the elements at the positions of a slice. -/
def spliced (items : List Value) (low high step : Option Int) (new_ : List Value) :
    Run (List Value) := do
  let positions := slicePositions items.length low high step
  if step.getD 1 == 1 then
    let (a, b, _) := sliceBounds items.length low high step
    return items.take a.toNat ++ new_ ++ items.drop (max a b).toNat
  else if positions.length != new_.length then
    valueError ("attempt to assign sequence of size " ++ toString new_.length ++
      " to extended slice of size " ++ toString positions.length)
  else
    let pairs := positions.zip new_
    return items.mapIdx fun i v => (pairs.lookup i).getD v

/-- Sets the element or elements at an index. -/
def setItem (v sub w : Value) : Run Unit := do
  let unsupported : Run Unit := do
    typeError (quoteText (← typeName v) ++ " object does not support item assignment")
  match v with
  | .ref a =>
    match ← object a with
    | .list items =>
      match ← selection engine sub (indicesMust "list") with
      | .one i =>
        match resolveIndex items.size i with
        | some k => put a (.list (items.setIfInBounds k w))
        | none => outOfRange "list assignment index"
      | .several x y k =>
        let more ← catchingOnly "TypeError" (engine.elements w) fun _ =>
          typeError "can only assign an iterable"
        put a (.list (← spliced items.toList x y k more).toArray)
    | .dict es =>
      checkKey sub
      put a (.dict (setKey sub w es))
    | .names .. =>
      match sub with
      | .str n => setName a n w
      | _ => return
    | .record c _ =>
      match ← definedIn? "__setitem__" (← order c) with
      | some f => discard (engine.call f [v, sub, w] [])
      | none => unsupported
    | _ => unsupported
  | _ => unsupported

/-- Deletes the element or elements at an index. -/
def deleteItem (v sub : Value) : Run Unit := do
  let unsupported : Run Unit := do
    typeError (quoteText (← typeName v) ++ " object doesn't support item deletion")
  match v with
  | .ref a =>
    match ← object a with
    | .list items =>
      match ← selection engine sub (indicesMust "list") with
      | .one i =>
        match resolveIndex items.size i with
        | some k => put a (.list (items.eraseIdxIfInBounds k))
        | none => outOfRange "list assignment index"
      | .several x y k =>
        let gone := slicePositions items.size x y k
        let kept := (items.toList.zipIdx.filter fun (_, i) => !gone.contains i).map (·.1)
        put a (.list kept.toArray)
    | .dict es =>
      checkKey sub
      if (findKey? sub es).isSome then put a (.dict (eraseKey sub es))
      else throwValue (.type "KeyError") [sub] {}
    | .names t _ =>
      match sub with
      | .str n =>
        if t.contains n then eraseName a n else throwValue (.type "KeyError") [sub] {}
      | _ => throwValue (.type "KeyError") [sub] {}
    | .record c _ =>
      match ← definedIn? "__delitem__" (← order c) with
      | some f => discard (engine.call f [v, sub] [])
      | none => unsupported
    | _ => unsupported
  | _ => unsupported

end Run

end NestShell.Code

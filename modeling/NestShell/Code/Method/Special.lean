import NestShell.Code.Argument
/-!
The methods that stand for operators, on built-in values: what `len`, the signs of arithmetic,
indices, loops and calls do when they are asked for by name.
-/
namespace NestShell.Code

def allOperators : List BinaryOp :=
  [.add, .subtract, .multiply, .divide, .floorDivide, .modulo, .power, .matrix, .bitAnd, .bitOr,
    .bitXor, .shiftLeft, .shiftRight]

/-- The operation that a special method stands for, and whether the operands change places. -/
def operatorOf? (name : String) : Option (BinaryOp × Bool) :=
  allOperators.findSome? fun op =>
    if name == "__" ++ Run.operatorName op ++ "__" then some (op, false)
    else if name == "__r" ++ Run.operatorName op ++ "__" then some (op, true)
    else none

def comparisonOf? (name : String) : Option CompareOp :=
  [CompareOp.equal, .unequal, .less, .lessEqual, .greater, .greaterEqual].find? fun op =>
    Run.orderMethod op == name

/-- The whole numbers that keys are spread over. -/
def hashModulus : Nat := Nat.pow 2 61 - 1

def hashInt (n : Int) : Int :=
  let h : Int := (n.natAbs % hashModulus : Nat)
  let h := if n < 0 then -h else h
  if h == -1 then -2 else h

namespace Run

variable (engine : Engine)

/-- An iterator over a value. -/
def iterate (v : Value) : Run Value := do
  let iterator (kind : String) : Run Value := do new (.iterator kind (← elements engine v))
  match v with
  | .str s => iterator (if s.toList.all fun c => c.toNat < 128 then "str_ascii_iterator"
      else "str_iterator")
  | .bytes _ => iterator "bytes_iterator"
  | .tuple _ => iterator "tuple_iterator"
  | .view .keys _ => iterator "dict_keyiterator"
  | .view .values _ => iterator "dict_valueiterator"
  | .view .items _ => iterator "dict_itemiterator"
  | .ref a =>
    match ← object a with
    | .iterator .. => return v
    | .list _ => iterator "list_iterator"
    | .set .. => iterator "set_iterator"
    | .dict _ | .names .. => iterator "dict_keyiterator"
    | .range .. => iterator "range_iterator"
    | .record c _ =>
      match ← definedIn? "__iter__" (← order c) with
      | some f => engine.call f [v] []
      | none => notIterable v
    | _ => notIterable v
  | _ => notIterable v

/-- The next element of an iterator. -/
def nextOf (v : Value) : Run Value := do
  let wrong : Run Value := do
    typeError (quoteText (← typeName v) ++ " object is not an iterator")
  match v with
  | .ref a =>
    match ← object a with
    | .iterator k (w :: rest) =>
      put a (.iterator k rest)
      return w
    | .iterator _ [] => raiseBare "StopIteration"
    | .record c _ =>
      match ← definedIn? "__next__" (← order c) with
      | some f => engine.call f [v] []
      | none => wrong
    | _ => wrong
  | _ => wrong

def hashOf (v : Value) : Run Value := do
  checkKey v
  match v with
  | .int n => return .int (hashInt n)
  | .bool b => return .int (if b then 1 else 0)
  | _ =>
    match ← special? v "__hash__" with
    | some f => engine.call f [v] []
    | none => return .int (0x7F0000000 + addressOf v)

/-- Whether two values are of kinds that one order covers. -/
def comparable (op : CompareOp) (v w : Value) : Run Bool := do
  match number? v, number? w with
  | some _, some _ => return true
  | none, none =>
    let a ← typeName v
    let ordering := op != .equal && op != .unequal
    let kinds := if ordering then ["str", "bytes", "tuple", "list", "set", "frozenset"]
      else ["str", "bytes", "tuple", "list", "set", "frozenset", "dict", "range"] ++ signalClasses
    return (a == (← typeName w) && kinds.contains a) || (!ordering && v.same w)
  | _, _ => return false

def wantArguments (n : Nat) (args : List Value) : Run Unit := do
  if args.length != n then
    typeError ("expected " ++ toString n ++ " argument" ++ plural n ++ ", got " ++
      toString args.length)

/-- A number without its sign. -/
def absolute (v : Value) : Run Value := do
  match number? v with
  | some (.inl n) => return .int n.natAbs
  | some (.inr x) => return .float x.abs
  | none =>
    match v with
    | .complex re im => return .float (Complex.size ⟨re, im⟩)
    | _ =>
      match ← special? v "__abs__" with
      | some f => engine.call f [v] []
      | none => typeError ("bad operand type for abs(): " ++ quoteText (← typeName v))

/-- Calls a special method of a built-in value. -/
def specialMethod (v : Value) (name : String) (args : List Value)
    (keywords : List (String × Value)) : Run Value := do
  let arg := args.getD 0 .none
  match operatorOf? name, comparisonOf? name with
  | some (op, swapped), _ => do
    wantArguments 1 args
    let (x, y) := if swapped then (arg, v) else (v, arg)
    match ← numberOp op x y with
    | some r => return r
    | none =>
      if (number? v).isSome then return .notImplemented
      else
        match ← containerOp engine op x y with
        | some r => return r
        | none => return .notImplemented
  | none, some op => do
    wantArguments 1 args
    if ← comparable op v arg then
      match op with
      | .equal => return .bool (← equal engine v arg)
      | .unequal => return .bool (!(← equal engine v arg))
      | _ => return .bool (← ordered engine op deepestOrder v arg)
    else return .notImplemented
  | none, none =>
    match name with
    | "__len__" =>
      wantArguments 0 args
      return .int ((← length? engine v).getD 0)
    | "__repr__" => wantArguments 0 args; return .str (← plainShown engine v)
    | "__str__" =>
      wantArguments 0 args
      match v with
      | .str s => return .str s
      | .ref a =>
        match ← object a with
        | .error e => return .str (← errorText engine e)
        | _ => return .str (← engine.shown v)
      | _ => return .str (← engine.shown v)
    | "__bool__" => wantArguments 0 args; return .bool (← truth engine v)
    | "__iter__" => wantArguments 0 args; iterate engine v
    | "__next__" => wantArguments 0 args; nextOf engine v
    | "__reversed__" =>
      wantArguments 0 args
      new (.iterator "list_reverseiterator" (← elements engine v).reverse)
    | "__contains__" => wantArguments 1 args; return .bool (← member engine arg v)
    | "__getitem__" => wantArguments 1 args; getItem engine v arg
    | "__setitem__" =>
      wantArguments 2 args
      setItem engine v arg (args.getD 1 .none)
      return .none
    | "__delitem__" =>
      wantArguments 1 args
      deleteItem engine v arg
      return .none
    | "__iadd__" => wantArguments 1 args; augmented engine .add v arg
    | "__imul__" => wantArguments 1 args; augmented engine .multiply v arg
    | "__hash__" => wantArguments 0 args; hashOf engine v
    | "__call__" => engine.call v args keywords
    | "__getattribute__" =>
      wantArguments 1 args
      engine.getAttr v (← asText arg fun t => "attribute name must be string, not " ++ quoteText t)
    | "__setattr__" =>
      wantArguments 2 args
      let n ← asText arg fun t => "attribute name must be string, not " ++ quoteText t
      setAttr engine v n (args.getD 1 .none)
      return .none
    | "__delattr__" =>
      wantArguments 1 args
      deleteAttr v (← asText arg fun t => "attribute name must be string, not " ++ quoteText t)
      return .none
    | "__dir__" => newList ((← directory engine v).map .str)
    | "__format__" =>
      let spec ← asText arg fun t => "__format__() argument must be str, not " ++ t
      return .str (← format engine v spec)
    | "__init__" =>
      match v with
      | .proceed _ | .skip | .breakout .. => unsupported "changes of signals"
      | .ref a =>
        match ← object a with
        | .error e =>
          put a (.error { e with args := args })
          return .none
        | .record .. =>
          if args.isEmpty then return .none
          else
            typeError
              "object.__init__() takes exactly one argument (the instance to initialize)"
        | _ => return .none
      | _ => return .none
    | "__init_subclass__" => return .none
    | "__subclasshook__" => return .notImplemented
    | "__sizeof__" => return .int 32
    | "__abs__" => wantArguments 0 args; absolute engine v
    | "__neg__" => wantArguments 0 args; unary engine .negative v
    | "__pos__" => wantArguments 0 args; unary engine .positive v
    | "__invert__" => wantArguments 0 args; unary engine .invert v
    | "__index__" | "__int__" | "__trunc__" | "__floor__" | "__ceil__" =>
      wantArguments 0 args
      match number? v with
      | some (.inl n) => return .int n
      | some (.inr x) =>
        let y := if name == "__floor__" then x.floor else if name == "__ceil__" then x.ceil else x
        return .int ((floatToInt? y).getD 0)
      | none => return .notImplemented
    | "__float__" =>
      wantArguments 0 args
      match number? v with
      | some n => return .float (← toFloat n)
      | none => return .notImplemented
    | "__divmod__" =>
      wantArguments 1 args
      return .tuple [← binary engine .floorDivide v arg, ← binary engine .modulo v arg]
    | "__get__" => return .bound arg v
    | _ => typeError (quoteText name ++ " is not supported")

end Run

end NestShell.Code

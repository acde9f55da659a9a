import NestShell.Code.Construct
/-!
The functions and names that every program can use.
-/
namespace NestShell.Code

open NestShell.Text

/-- The names that every program can use, in the order of their characters. -/
def builtinNames : List String := words
  "ArithmeticError AssertionError AttributeError BaseException BaseExceptionGroup
    BlockingIOError BrokenPipeError BufferError BytesWarning ChildProcessError
    ConnectionAbortedError ConnectionError ConnectionRefusedError ConnectionResetError
    DeprecationWarning EOFError Ellipsis EncodingWarning EnvironmentError Exception
    ExceptionGroup False FileExistsError FileNotFoundError FloatingPointError FutureWarning
    GeneratorExit IOError ImportError ImportWarning IndentationError IndexError
    InterruptedError IsADirectoryError KeyError KeyboardInterrupt LookupError MemoryError
    ModuleNotFoundError NameError None NotADirectoryError NotImplemented NotImplementedError
    OSError OverflowError PendingDeprecationWarning PermissionError ProcessLookupError
    RecursionError ReferenceError ResourceWarning RuntimeError RuntimeWarning
    StopAsyncIteration StopIteration SyntaxError SyntaxWarning SystemError SystemExit TabError
    TimeoutError True TypeError UnboundLocalError UnicodeDecodeError UnicodeEncodeError
    UnicodeError UnicodeTranslateError UnicodeWarning UserWarning ValueError Warning
    ZeroDivisionError __build_class__ __debug__ __doc__ __import__ __loader__ __name__
    __package__ __spec__ abs aiter all anext any ascii bin bool breakpoint bytearray bytes
    callable chr classmethod compile complex copyright credits delattr dict dir divmod
    enumerate eval exec exit filter float format frozenset getattr globals hasattr hash help
    hex id input int isinstance issubclass iter len license list locals map max memoryview min
    next object oct open ord pow print property quit range repr reversed round set setattr
    slice sorted staticmethod str sum super tuple type vars zip"

/-- The built-in names that are classes but no exceptions. -/
def builtinClasses : List String := words
  "bool bytearray bytes classmethod complex dict enumerate filter float frozenset int list map
    memoryview object property range reversed set slice staticmethod str super tuple type zip"

/-- The value of a built-in name. -/
def builtinValue? (name : String) : Option Value :=
  if !builtinNames.contains name then none
  else some <| match name with
    | "Ellipsis" => .ellipsis
    | "False" => .bool false
    | "True" | "__debug__" => .bool true
    | "None" => .none
    | "NotImplemented" => .notImplemented
    | "EnvironmentError" | "IOError" => .type "OSError"
    | "__name__" => .str "builtins"
    | "__package__" => .str ""
    | "__doc__" => manualText "builtins"
    | "__loader__" | "__spec__" => .none
    | _ =>
      if builtinClasses.contains name || isExceptionName name then .type name else .native name

namespace Run

variable (engine : Engine)

/-! ## Printing -/

def printValues (args : List Value) (keywords : List (String × Value)) : Run Value := do
  for (n, _) in keywords do
    if !(["sep", "end", "file", "flush"].contains n) then
      typeError (quoteText n ++ " is an invalid keyword argument for print()")
  let option (n default_ : String) : Run String := do
    match (keywords.lookup n).getD .none with
    | .none => return default_
    | .str s => return s
    | v => typeError (n ++ " must be None or a string, not " ++ (← typeName v))
  let separator ← option "sep" " "
  let final ← option "end" "\n"
  for (v, i) in args.zipIdx do
    if i > 0 then write separator
    write (← engine.text v)
  write final
  return .none

/-! ## Sequences -/

/-- The element that stands first or last in an order. -/
def extreme (name : String) (op : CompareOp) (args : List Value)
    (keywords : List (String × Value)) : Run Value := do
  checkCount name 1 args.length.succ args
  for (n, _) in keywords do
    if n != "key" && n != "default" then
      typeError (quoteText n ++ " is an invalid keyword argument for " ++ name ++ "()")
  let default? := keywords.lookup "default"
  if args.length > 1 && default?.isSome then
    typeError ("Cannot specify a default for " ++ name ++ "() with multiple positional arguments")
  let items ← match args with
    | [v] => engine.elements v
    | _ => pure args
  let key := (keywords.lookup "key").getD .none
  let keyed ← items.mapM fun v => do
    if key.isNone then return (v, v) else return (← engine.call key [v] [], v)
  match keyed with
  | [] =>
    match default? with
    | some v => return v
    | none => valueError (name ++ "() arg is an empty sequence")
  | first :: rest =>
    let best ← rest.foldlM (fun best c => do
      return if ← ordered engine op deepestOrder c.1 best.1 then c else best) first
    return best.2

def total (args : List Value) (keywords : List (String × Value)) : Run Value := do
  if args.isEmpty then typeError "sum() takes at least 1 positional argument (0 given)"
  let values ← named "sum" 1 ["iterable", "start"] args keywords
  let start := (values.getD 1 none).getD (.int 0)
  match start with
  | .str _ => typeError "sum() can't sum strings [use \x27\x27.join(seq) instead]"
  | .bytes _ => typeError "sum() can't sum bytes [use b\x27\x27.join(seq) instead]"
  | _ =>
    let items ← engine.elements ((values.getD 0 none).getD .none)
    items.foldlM (binary engine .add) start

def sortedList (args : List Value) (keywords : List (String × Value)) : Run Value := do
  checkCount "sorted" 1 1 args
  let items ← engine.elements (args.getD 0 .none)
  let (key, descending) ← sortArguments engine keywords
  newList (← sortValues engine items key descending)

/-! ## Classes and attributes -/

/-- Whether a class descends from another, or from one of a tuple of them. -/
def descends (complaint : String) (c : Value) : Value → Run Bool
  | .tuple cs => cs.anyM fun d => do
      match d with
      | .tuple ds => ds.anyM (subclassOf c)
      | _ => one d
  | d => one d
where
  one (d : Value) : Run Bool := do
    if ← isClass d then subclassOf c d else typeError complaint

def attributeName (v : Value) : Run String :=
  asText v fun t => "attribute name must be string, not " ++ quoteText t

def basedInt (mark : String) (base : Nat) (v : Value) : Run Value := do
  let n ← asInt engine v
  return .str ((if n < 0 then "-" else "") ++ mark ++ basedText base n.natAbs)

def power (args : List Value) (keywords : List (String × Value)) : Run Value := do
  let values ← named "pow" 2 ["base", "exp", "mod"] args keywords
  let a := (values.getD 0 none).getD .none
  let b := (values.getD 1 none).getD .none
  match (values.getD 2 none).getD .none with
  | .none => binary engine .power a b
  | m =>
    match asCount? a, asCount? b, asCount? m with
    | some x, some y, some k =>
      if k == 0 then valueError "pow() 3rd argument cannot be 0"
      if y < 0 then valueError "base is not invertible for the given modulus"
      let r := (List.range (bitLength y.toNat)).foldr (fun i acc =>
        let square := (acc * acc).fmod k
        if y.toNat.testBit i then (square * x).fmod k else square) ((1 : Int).fmod k)
      return .int r
    | _, _, _ =>
      typeError "pow() 3rd argument not allowed unless all arguments are integers"

def quotientAndRest (args : List Value) : Run Value := do
  checkCount "divmod" 2 2 args
  let a := args.getD 0 .none
  let b := args.getD 1 .none
  return .tuple [← binaryShown engine "divmod()" .floorDivide a b, ← binary engine .modulo a b]

/-- A shown form with all but plain characters written as escapes. -/
def escaped (s : String) : String :=
  String.join (s.toList.map fun c => if c.toNat < 128 then c.toString else escapedChar c)

/-- The own values of a value that has some. -/
def variablesOf (v : Value) : Run Value := do
  match v with
  | .ref a =>
    match ← object a with
    | .module _ _ vars => return .ref vars
    | _ => fields
  | _ => fields
where
  fields : Run Value := do
    match ← ownNames? v with
    | some t => dictOf t
    | none => typeError "vars() argument must have __dict__ attribute"

/-- Calls a built-in function. -/
def callNative (name : String) (args : List Value) (keywords : List (String × Value)) :
    Run Value := do
  let one : Run Value := single name args keywords
  let some_ (least most : Nat) : Run Unit := do
    noKeywords name keywords
    checkCount name least most args
  let arg (i : Nat) : Value := args.getD i .none
  match name with
  | "print" => printValues engine args keywords
  | "len" =>
    let v ← one
    match ← length? engine v with
    | some n => return .int n
    | none => typeError ("object of type " ++ quoteText (← typeName v) ++ " has no len()")
  | "sorted" => sortedList engine args keywords
  | "sum" => total engine args keywords
  | "max" => extreme engine name .greater args keywords
  | "min" => extreme engine name .less args keywords
  | "abs" => absolute engine (← one)
  | "repr" => return .str (← engine.shown (← one))
  | "ascii" => return .str (escaped (← engine.shown (← one)))
  | "all" => return .bool (← (← engine.elements (← one)).allM (truth engine))
  | "any" => return .bool (← (← engine.elements (← one)).anyM (truth engine))
  | "callable" => return .bool (← callable (← one))
  | "chr" =>
    let n ← asInt engine (← one)
    if n < 0 || n ≥ 0x110000 then valueError "chr() arg not in range(0x110000)"
    return .str (Char.ofNat n.toNat).toString
  | "ord" =>
    match ← one with
    | .str s =>
      match s.toList with
      | [c] => return .int c.toNat
      | cs =>
        typeError ("ord() expected a character, but string of length " ++ toString cs.length ++
          " found")
    | v => typeError ("ord() expected string of length 1, but " ++ (← typeName v) ++ " found")
  | "hex" => basedInt engine "0x" 16 (← one)
  | "oct" => basedInt engine "0o" 8 (← one)
  | "bin" => basedInt engine "0b" 2 (← one)
  | "hash" => hashOf engine (← one)
  | "id" => return .int (0x7F0000000000 + 16 * addressOf (← one))
  | "divmod" => noKeywords name keywords; quotientAndRest engine args
  | "pow" => power engine args keywords
  | "round" => makeRounded engine args keywords
  | "isinstance" =>
    some_ 2 2
    return .bool (← descends
      "isinstance() arg 2 must be a type, a tuple of types, or a union" (← classOf (arg 0)) (arg 1))
  | "issubclass" =>
    some_ 2 2
    if !(← isClass (arg 0)) then typeError "issubclass() arg 1 must be a class"
    return .bool (← descends
      "issubclass() arg 2 must be a class, a tuple of classes, or a union" (arg 0) (arg 1))
  | "getattr" =>
    some_ 2 3
    let n ← attributeName (arg 1)
    match (args[2]? : Option Value) with
    | some d => return (← getAttr? engine (arg 0) n).getD d
    | none => engine.getAttr (arg 0) n
  | "hasattr" =>
    some_ 2 2
    return .bool (← getAttr? engine (arg 0) (← attributeName (arg 1))).isSome
  | "setattr" =>
    some_ 3 3
    setAttr engine (arg 0) (← attributeName (arg 1)) (arg 2)
    return .none
  | "delattr" =>
    some_ 2 2
    deleteAttr (arg 0) (← attributeName (arg 1))
    return .none
  | "dir" =>
    some_ 1 1
    newList ((← directory engine (arg 0)).map .str)
  | "vars" =>
    some_ 1 1
    variablesOf (arg 0)
  | "iter" =>
    some_ 1 1
    iterate engine (arg 0)
  | "next" =>
    some_ 1 2
    match (args[1]? : Option Value) with
    | some d => catchingOnly "StopIteration" (nextOf engine (arg 0)) fun _ => return d
    | none => nextOf engine (arg 0)
  | "format" =>
    some_ 1 2
    let spec ← match (args[1]? : Option Value) with
      | some v => asText v fun t => "format() argument 2 must be str, not " ++ t
      | none => pure ""
    return .str (← format engine (arg 0) spec)
  | "exit" | "quit" =>
    throwValue (.type "SystemExit") [arg 0] (Names.ofList [("code", arg 0)])
  | "__import__" =>
    raise "ModuleNotFoundError" ("No module named " ++ (← engine.shown (arg 0)))
  | _ => typeError (quoteText name ++ " is not supported")

/-! ## Calls of built-in methods -/

/-- Methods that a built-in class offers itself. -/
def classMethodOf (c : Value) (name : String) (args : List Value)
    (keywords : List (String × Value)) : Run (Option Value) := do
  match c, name with
  | _, "__call__" => return some (← engine.call c args keywords)
  | _, "mro" => return some (← newList (← order c))
  | _, "__subclasses__" => return some (← newList [])
  | _, "__new__" =>
    match args with
    | d :: rest =>
      if ← isClass d then
        if ← isException d then return some (← makeError engine d rest keywords)
        else
          match d with
          | .ref _ => return some (← new (.record d {}))
          | _ => return some (← engine.call d rest keywords)
      else typeError "object.__new__(X): X is not a type object"
    | [] => typeError ((← className c) ++ ".__new__(): not enough arguments")
  | .type "dict", "fromkeys" => return some (← dictFromKeys engine args)
  | .type "str", "maketrans" => return some (← makeTable engine args)
  | .type "int", "from_bytes" => return some (← intFromBytes engine args keywords)
  | _, _ => return none

/-- Calls a built-in method of a value. -/
def callMethod (v : Value) (name : String) (args : List Value)
    (keywords : List (String × Value)) : Run Value := do
  let special : Run Value := specialMethod engine v name args keywords
  let ordinary : Run Value := do
    if isDunder name then special
    else
      match v with
      | .str s => textMethod engine s name args keywords
      | .bytes bs => bytesMethod engine bs name args keywords
      | .int n => intMethod engine n name args keywords
      | .bool b => intMethod engine (if b then 1 else 0) name args keywords
      | .float x => floatMethod x name args keywords
      | .complex re im => complexMethod re im name args keywords
      | .tuple vs => tupleMethod engine vs name args keywords
      | .ref a =>
        match ← object a with
        | .list items => listMethod engine a items.toList name args keywords
        | .dict es => dictMethod engine v es (fun es => put a (.dict es)) name args keywords
        | .names t r =>
          let es := t.entries.map fun (n, w) => (Value.str n, w)
          let store (es : List (Value × Value)) : Run Unit :=
            put a (.names (Names.ofList (es.filterMap fun (k, w) =>
              match k with
              | .str n => some (n, w)
              | _ => none)) r)
          dictMethod engine v es store name args keywords
        | .set items frozen => setMethod engine a items frozen name args keywords
        | .range lo hi step => rangeMethod engine (rangeItems lo hi step) name args keywords
        | .error e =>
          match name with
          | "with_traceback" => return v
          | "add_note" =>
            put a (.error { e with attrs := e.attrs.set "__notes__" (← newList args) })
            return .none
          | _ => typeError (quoteText name ++ " is not supported")
        | _ => typeError (quoteText name ++ " is not supported")
      | _ => typeError (quoteText name ++ " is not supported")
  if ← isClass v then
    match ← classMethodOf engine v name args keywords with
    | some r => return r
    | none => ordinary
  else ordinary

/-- Calls a built-in method looked up on its class; the first argument is the value. -/
def callSlot (owner name : String) (args : List Value) (keywords : List (String × Value)) :
    Run Value := do
  match args with
  | [] =>
    if isWrapper name then
      typeError ("descriptor " ++ quoteText name ++ " of " ++ quoteText owner ++
        " object needs an argument")
    else typeError ("unbound method " ++ owner ++ "." ++ name ++ "() needs an argument")
  | v :: rest =>
    if owner == "object" && v.signalFields?.isSome &&
        (name == "__setattr__" || name == "__delattr__") then
      unsupported "changes of signals"
    else if ← instanceOf v (.type owner) then callMethod engine v name rest keywords
    else if isWrapper name then
      typeError ("descriptor " ++ quoteText name ++ " requires a " ++ quoteText owner ++
        " object but received a " ++ quoteText (← typeName v))
    else
      typeError ("descriptor " ++ quoteText name ++ " for " ++ quoteText owner ++
        " objects doesn't apply to a " ++ quoteText (← typeName v) ++ " object")

end Run

end NestShell.Code

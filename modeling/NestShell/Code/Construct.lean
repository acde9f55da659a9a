import NestShell.Code.Method.Collection
import NestShell.Code.Method.Number
import NestShell.Code.Method.Special
import NestShell.Code.Method.Text
/-!
Making new objects: instances of built-in classes, exceptions with the attributes that their
arguments give them, and instances of classes of programs.
-/
namespace NestShell.Code

/-- The class that stands for an error number of the system. -/
def systemErrors : List (Int × String) :=
  [(1, "PermissionError"), (2, "FileNotFoundError"), (3, "ProcessLookupError"),
    (4, "InterruptedError"), (10, "ChildProcessError"), (11, "BlockingIOError"),
    (13, "PermissionError"), (17, "FileExistsError"), (20, "NotADirectoryError"),
    (21, "IsADirectoryError"), (32, "BrokenPipeError"), (103, "ConnectionAbortedError"),
    (104, "ConnectionResetError"), (108, "BrokenPipeError"), (110, "TimeoutError"),
    (111, "ConnectionRefusedError"), (114, "BlockingIOError"), (115, "BlockingIOError")]

namespace Run

variable (engine : Engine)

/-! ## Exceptions -/

/-- A new exception. -/
def newError (cls : Value) (args : List Value) (attrs : Names) : Run Value :=
  new (.error ⟨cls, args, attrs, none⟩)

def namedFields (names : List String) (values : List Value) : Names :=
  Names.ofList (names.zip values)

def systemError (cls : Value) (args : List Value) : Run Value := do
  if args.length < 2 || args.length > 5 then newError cls args {}
  else
    let cls := match cls, (args[0]? : Option Value) with
      | .type "OSError", some (.int n) =>
        ((systemErrors.lookup n).map Value.type).getD cls
      | _, _ => cls
    let attrs := namedFields ["errno", "strerror"] args
    let attrs := match (args[2]? : Option Value) with
      | some .none | none => attrs
      | some f => attrs.set "filename" f
    let attrs := match (args[4]? : Option Value) with
      | some .none | none => attrs
      | some f => attrs.set "filename2" f
    newError cls (if attrs.contains "filename" then args.take 2 else args) attrs

def syntaxError (cls : Value) (args : List Value) : Run Value := do
  match args with
  | [msg, place] =>
    let parts ← engine.elements place
    newError cls args ((namedFields ["filename", "lineno", "offset", "text"] parts).merge
      (namedFields ["msg"] [msg]))
  | msg :: _ => newError cls args (namedFields ["msg"] [msg])
  | [] => newError cls args {}

/-- An exception whose arguments are fixed in number and class. -/
def codingError (cls : Value) (names kinds : List String) (args : List Value) : Run Value := do
  if args.length != kinds.length then
    typeError ("function takes exactly " ++ toString kinds.length ++ " arguments (" ++
      toString args.length ++ " given)")
  for ((v, kind), i) in (args.zip kinds).zipIdx do
    let actual ← typeName v
    if kind == "int" then
      if (← index? engine v).isNone then
        typeError (quoteText actual ++ " object cannot be interpreted as an integer")
    else if actual != kind then
      if kind == "bytes" then
        typeError ("a bytes-like object is required, not " ++ quoteText actual)
      else
        typeError ("argument " ++ toString (i + 1) ++ " must be " ++ kind ++ ", not " ++ actual)
  newError cls args (namedFields names args)

def groupError (cls : Value) (args : List Value) : Run Value := do
  match args with
  | [.str _, _] => newError cls args {}
  | [v, _] => typeError ("argument 1 must be str, not " ++ (← typeName v))
  | _ =>
    typeError ("BaseExceptionGroup.__new__() takes exactly 2 arguments (" ++
      toString args.length ++ " given)")

/-- The names that some exceptions take beside their arguments. -/
def errorKeywords (ancestry : List String) : List String :=
  if ancestry.contains "ImportError" then ["name", "path"]
  else if ancestry.contains "AttributeError" then ["name", "obj"]
  else if ancestry.contains "NameError" then ["name"]
  else []

/-- A new exception of any class, with the attributes of its built-in base. -/
def makeError (cls : Value) (args : List Value) (keywords : List (String × Value)) :
    Run Value := do
  let ancestry := (← order cls).filterMap builtinName?
  let base := ancestry.headD "Exception"
  let isA (n : String) : Bool := ancestry.contains n
  let allowed := errorKeywords ancestry
  let ownInit ← definedIn? "__init__" (← order cls)
  if ownInit.isNone then
    match keywords.find? fun (n, _) => !allowed.contains n with
    | some (n, _) =>
      if allowed.isEmpty then typeError ((← className cls) ++ "() takes no keyword arguments")
      else typeError (quoteText n ++ " is an invalid keyword argument for " ++ base ++ "()")
    | none => pure ()
  if isA "OSError" then systemError cls args
  else if isA "SyntaxError" then syntaxError engine cls args
  else if isA "UnicodeDecodeError" then
    codingError engine cls ["encoding", "object", "start", "end", "reason"]
      ["str", "bytes", "int", "int", "str"] args
  else if isA "UnicodeEncodeError" then
    codingError engine cls ["encoding", "object", "start", "end", "reason"]
      ["str", "str", "int", "int", "str"] args
  else if isA "UnicodeTranslateError" then
    codingError engine cls ["object", "start", "end", "reason"] ["str", "int", "int", "str"] args
  else if isA "BaseExceptionGroup" then groupError cls args
  else if isA "SystemExit" then
    newError cls args (match args with
      | [] => {}
      | [v] => namedFields ["code"] [v]
      | vs => namedFields ["code"] [.tuple vs])
  else if isA "StopIteration" then newError cls args (namedFields ["value"] args)
  else if isA "ImportError" then
    newError cls args ((if args.length == 1 then namedFields ["msg"] args else {}).merge
      (Names.ofList keywords))
  else newError cls args (Names.ofList (keywords.filter fun (n, _) => allowed.contains n))

/-! ## Instances of built-in classes -/

def makeText (args : List Value) (keywords : List (String × Value)) : Run Value := do
  let values ← named "str" 0 ["object", "encoding", "errors"] args keywords
  let checked (i : Nat) (n default_ : String) : Run String := do
    match values.getD i none with
    | none => return default_
    | some v => asText v fun t =>
        "str() argument " ++ quoteText n ++ " must be str, not " ++ t
  match values with
  | [none, none, none] => return .str ""
  | [some v, none, none] => return .str (← engine.text v)
  | _ =>
    let encoding ← checked 1 "encoding" "utf-8"
    let errors ← checked 2 "errors" "strict"
    match (values.getD 0 none).getD (.bytes []) with
    | .bytes bs => decodeBytes bs encoding errors
    | .str _ => typeError "decoding str is not supported"
    | v => typeError ("decoding to str: need a bytes-like object, " ++ (← typeName v) ++ " found")

def makeBytes (args : List Value) : Run Value := do
  match args with
  | [] => return .bytes []
  | [.bytes bs] => return .bytes bs
  | [.str _] => typeError "string argument without an encoding"
  | .str s :: encoding => encodeText s encoding []
  | v :: _ =>
    match ← index? engine v with
    | some n =>
      if n < 0 then valueError "negative count"
      return .bytes (List.replicate n.toNat 0)
    | none =>
      let items ← catchingOnly "TypeError" (engine.elements v) fun _ => do
        typeError ("cannot convert " ++ quoteText (← typeName v) ++ " object to bytes")
      let bs ← items.mapM fun w => do
        let n ← asInt engine w
        if n < 0 || n > 255 then valueError "bytes must be in range(0, 256)"
        return UInt8.ofNat n.toNat
      return .bytes bs

def makeRange (args : List Value) : Run Value := do
  checkCount "range" 1 3 args
  match ← args.mapM (asInt engine) with
  | [hi] => new (.range 0 hi 1)
  | [lo, hi] => new (.range lo hi 1)
  | lo :: hi :: step :: _ =>
    if step == 0 then valueError "range() arg 3 must not be zero"
    new (.range lo hi step)
  | [] => return .none

def makeSlice (args : List Value) : Run Value := do
  checkCount "slice" 1 3 args
  match args with
  | [hi] => new (.slice .none hi .none)
  | [lo, hi] => new (.slice lo hi .none)
  | lo :: hi :: step :: _ => new (.slice lo hi step)
  | [] => return .none

/-- The tuples of the first elements, the second ones and so on, up to the shortest. -/
def zipAll : Nat → List (List Value) → List Value
  | 0, _ => []
  | fuel + 1, rows =>
    if rows.isEmpty || rows.any List.isEmpty then []
    else .tuple (rows.map fun r => r.headD .none) :: zipAll fuel (rows.map (·.drop 1))

def lazily (kind : String) (items : List Value) : Run Value := new (.iterator kind items)

def makeSequence (kind : String) (args : List Value) : Run (List Value) := do
  checkCount kind 0 1 args
  match args with
  | [] => return []
  | v :: _ => engine.elements v

def makeProperty (args : List Value) : Run Value := do
  let getter := args.getD 0 .none
  let doc ← match (args[3]? : Option Value) with
    | some d => pure d
    | none => do pure ((← getAttr? engine getter "__doc__").getD .none)
  new (.property getter (if getter.isNone then .none else doc))

/-- A built-in function with parameters like those of a program. -/
def described (name qualifiedName : String) (params : List String)
    (defaults : List (String × Value)) : Function where
  name := name
  qualifiedName := qualifiedName
  moduleName := .str signalModule
  file := ""
  firstLine := 0
  lastLine := 0
  doc := .none
  params := params.map fun p => (.regular, p)
  defaults := defaults
  body := []
  globals := 0
  closure := []
  locals := params
  owner := none
  attrs := {}

/-- What initialises the instances of a class of signals. -/
def signalInit (name : String) (params : List String) (defaults : List (String × Value)) :
    Function :=
  described "__init__" (name ++ ".__init__") ("self" :: params) defaults

/-- A new signal, or the mark for no value. -/
def makeSignal (name : String) (args : List Value) (keywords : List (String × Value)) :
    Run Value := do
  let bound (f : Function) : Run Names := bindArguments f (.none :: args) keywords
  match name with
  | "Continue" =>
    let given ← bound (signalInit name ["value"] [("value", .noValue)])
    return .proceed ((given.get? "value").getD .noValue)
  | "Skip" =>
    let _ ← bound (signalInit name [] [])
    return .skip
  | "Breakout" =>
    let given ← bound (signalInit name ["target_level", "value"] [("value", .none)])
    return .breakout ((given.get? "target_level").getD .none) ((given.get? "value").getD .none)
  | _ =>
    let _ ← bound (described "__new__" (name ++ ".__new__") ["cls"] [])
    return .noValue

/-- An instance of a built-in class. -/
def makeBuiltin (name : String) (args : List Value) (keywords : List (String × Value)) :
    Run Value := do
  match name with
  | "int" => makeInt engine args keywords
  | "float" => makeFloat engine args keywords
  | "complex" => makeComplex args keywords
  | "bool" =>
    noKeywords name keywords
    checkCount name 0 1 args
    return .bool (← truth engine (args.getD 0 (.bool false)))
  | "str" => makeText engine args keywords
  | "bytes" => makeBytes engine args
  | "list" => noKeywords name keywords; newList (← makeSequence engine name args)
  | "tuple" => noKeywords name keywords; return .tuple (← makeSequence engine name args)
  | "set" | "frozenset" =>
    noKeywords name keywords
    let items ← makeSequence engine name args
    for v in items do checkKey v
    new (.set (distinct items) (name == "frozenset"))
  | "dict" =>
    checkCount name 0 1 args
    let es ← match args with
      | [] => pure []
      | v :: _ => asPairs engine v
    newDict (← mergeEntries [] (es ++ keywords.map fun (n, v) => (.str n, v)))
  | "range" => noKeywords name keywords; makeRange engine args
  | "slice" => noKeywords name keywords; makeSlice args
  | "object" =>
    if !args.isEmpty || !keywords.isEmpty then typeError "object() takes no arguments"
    new (.record (.type "object") {})
  | "type" =>
    match args with
    | [v] => classOf v
    | _ => typeError "type() takes 1 or 3 arguments"
  | "enumerate" =>
    let values ← named name 1 ["iterable", "start"] args keywords
    let start ← asInt engine ((values.getD 1 none).getD (.int 0))
    let items ← engine.elements ((values.getD 0 none).getD .none)
    lazily name (items.zipIdx.map fun (v, i) => .tuple [.int (start + i), v])
  | "zip" =>
    let rows ← args.mapM engine.elements
    lazily name (zipAll ((rows.map List.length).foldl max 0) rows)
  | "map" =>
    if args.length < 2 then typeError "map() must have at least two arguments."
    let rows ← (args.drop 1).mapM engine.elements
    let items ← (zipAll ((rows.map List.length).foldl max 0) rows).mapM fun
      | .tuple vs => engine.call (args.getD 0 .none) vs []
      | v => return v
    lazily name items
  | "filter" =>
    checkCount name 2 2 args
    let f := args.getD 0 .none
    let items ← (← engine.elements (args.getD 1 .none)).filterM fun v => do
      if f.isNone then truth engine v else truth engine (← engine.call f [v] [])
    lazily name items
  | "reversed" =>
    checkCount name 1 1 args
    let v := args.getD 0 .none
    let known ← match v with
      | .str _ | .bytes _ | .tuple _ | .view .. => pure true
      | .ref a => do
        match ← object a with
        | .list _ | .dict _ | .range .. => pure true
        | _ => pure false
      | _ => pure false
    if known then
      let kind := if v matches .ref _ then "list_reverseiterator" else name
      lazily kind (← engine.elements v).reverse
    else
      match ← special? v "__reversed__" with
      | some f => engine.call f [v] []
      | none => typeError (quoteText (← typeName v) ++ " object is not reversible")
  | "property" =>
    let values ← named name 0 ["fget", "fset", "fdel", "doc"] args keywords
    makeProperty engine (values.map (·.getD .none) |>.take (if (values.getD 3 none).isSome
      then 4 else 3))
  | "classmethod" => checkCount name 1 1 args; new (.classMethod (args.getD 0 .none))
  | "staticmethod" => checkCount name 1 1 args; new (.staticMethod (args.getD 0 .none))
  | "partial" => new (.partialCall (args.getD 0 .none) (args.drop 1) (Names.ofList keywords))
  | "Continue" | "Skip" | "Breakout" | "_NoValue" => makeSignal name args keywords
  | "super" =>
    match args with
    | [c, r] => new (.parent c r)
    | _ => raise "RuntimeError" "super(): no arguments"
  | _ =>
    if isExceptionName name then makeError engine (.type name) args keywords
    else typeError ("cannot create " ++ quoteText name ++ " instances")

/-! ## Instances of classes of programs -/

/-- Calls the initialiser of a class on a new object. -/
def initialise (c self : Value) (args : List Value) (keywords : List (String × Value)) :
    Run (Option Unit) := do
  match ← definedIn? "__init__" (← order c) with
  | some f =>
    match ← engine.call f (self :: args) keywords with
    | .none => return some ()
    | r => typeError ("__init__() should return None, not " ++ quoteText (← typeName r))
  | none => return none

def instantiate (c : Value) (args : List Value) (keywords : List (String × Value)) :
    Run Value := do
  match ← definedIn? "__new__" (← order c) with
  | some f =>
    let f ← bindToClass c f
    let self ← engine.call f (c :: args) keywords
    if ← instanceOf self c then discard (initialise engine c self args keywords)
    return self
  | none =>
    if ← isException c then
      let self ← makeError engine c args keywords
      let _ ← initialise engine c self args keywords
      return self
    else
      let self ← new (.record c {})
      match ← initialise engine c self args keywords with
      | some () => return self
      | none =>
        if args.isEmpty && keywords.isEmpty then return self
        else
          match ← builtinBase c with
          | "object" => typeError ((← className c) ++ "() takes no arguments")
          | _ => return self

end Run

end NestShell.Code

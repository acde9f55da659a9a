import NestShell.Code.Display
import NestShell.Code.Manual
/-!
Attributes: reading, setting and deleting them, and listing their names. An attribute of an
instance is looked up among the properties of its class, its own values, what else its class
defines, and what its built-in base offers.
-/
namespace NestShell.Code

open NestShell.Text

/-- The first kind of a lineage that defines a name, and whether it is no method there. -/
def definingKind? (className attr : String) : Option (String × Bool) :=
  (lineage className).findSome? fun k =>
    match kind? k with
    | some kind =>
      if (words kind.own).contains attr then some (k, (words kind.plain).contains attr) else none
    | none => none

/-- The names that the instances of a built-in class have. -/
def kindNames (className : String) : List String :=
  ("__doc__" :: (lineage className).flatMap fun k =>
    ((kind? k).map fun kind => words kind.own).getD []).eraseDups

def manualOf? (name : String) : Option ManualEntry := manual.find? (·.name == name)

def manualText (name : String) : Value :=
  match manualOf? name with
  | some e => if e.text.isEmpty then .none else .str e.text
  | none => .none

/-- Methods that are called on the class. -/
def classLevelNames : List String :=
  ["__class_getitem__", "__init_subclass__", "__new__", "__subclasshook__", "from_bytes",
    "fromhex", "fromkeys", "maketrans"]

namespace Run

variable (engine : Engine)

def missing {α : Type} (v : Value) (n : String) : Run α := do
  raise "AttributeError" (quoteStart 50 (← typeName v) ++ " object has no attribute " ++ quoteText n)

def missingOnClass {α : Type} (c : Value) (n : String) : Run α := do
  raise "AttributeError"
    ("type object " ++ quoteStart 50 (← className c) ++ " has no attribute " ++ quoteText n)

/-- What a value found on the class of an instance is, taken from that instance. -/
def bindTo (instance_ cls found : Value) : Run Value := do
  match found with
  | .ref a =>
    match ← object a with
    | .function _ => return .bound instance_ found
    | .classMethod f => return .bound cls f
    | .staticMethod f => return f
    | .property getter _ => engine.call getter [instance_] []
    | _ => return found
  | .slot _ n => return .method instance_ n
  | _ => return found

/-- What a value found on a class is, taken from the class. -/
def bindToClass (cls found : Value) : Run Value := do
  match found with
  | .ref a =>
    match ← object a with
    | .classMethod f => return .bound cls f
    | .staticMethod f => return f
    | _ => return found
  | _ => return found

def foreignNew (className shown : String) : Run Value := new (.foreign className shown)

/-- A field of a built-in class that is no method, taken from the class. -/
def fieldOfClass (owner n : String) : Run Value := do
  if n == "__doc__" then return manualText owner
  else if n == "__hash__" then return .none
  else foreignNew "getset_descriptor" ("<attribute '" ++ n ++ "' of '" ++ owner ++ "' objects>")

def dictOf (t : Names) : Run Value := newDict (t.entries.map fun (n, v) => (.str n, v))

/-- Whether the instances of a class have values of their own beside its fixed fields. -/
def openInstances (c : Value) : Run Bool := do
  (← order c).anyM fun
    | .ref a => do
      match ← object a with
      | .cls k => return !k.members.contains "__slots__"
      | _ => return false
    | _ => return false

/-- The own values of an object, where it keeps any. -/
def ownNames? (v : Value) : Run (Option Names) := do
  match v with
  | .ref a =>
    match ← object a with
    | .record c fields => return if ← openInstances c then some fields else none
    | .error e => return some e.attrs
    | .cls k => return some k.members
    | .module _ _ vars => return some (← namesAt vars)
    | .function f => return some f.attrs
    | .partialCall .. => return some {}
    | .classMethod _ | .staticMethod _ => return some {}
    | _ => return none
  | .bound _ (.ref a) =>
    match ← object a with
    | .function f => return some f.attrs
    | _ => return none
  | .type n => do
    match kind? n with
    | some k =>
      let entries ← (words k.own).mapM fun m => do
        if (words k.plain).contains m then return (m, ← fieldOfClass n m)
        else if classLevelNames.contains m then return (m, Value.method (.type n) m)
        else return (m, Value.slot n m)
      return some ⟨entries ++ [("__doc__", manualText n)]⟩
    | none => return some {}
  | _ => return none

def functionField? (f : Function) (n : String) : Run (Option Value) := do
  match n with
  | "__name__" => return some (.str f.name)
  | "__qualname__" => return some (.str f.qualifiedName)
  | "__doc__" => return some f.doc
  | "__module__" => return some f.moduleName
  | "__dict__" => return some (← dictOf f.attrs)
  | "__defaults__" =>
    let ds := f.defaults.filter fun (p, _) =>
      f.params.any fun (k, q) => p == q && (k == .positional || k == .regular)
    return some (if ds.isEmpty then .none else .tuple (ds.map (·.2)))
  | "__kwdefaults__" =>
    let ds := f.defaults.filter fun (p, _) => f.params.any fun (k, q) => p == q && k == .keyword
    if ds.isEmpty then return some .none
    else return some (← newDict (ds.map fun (p, v) => (.str p, v)))
  | "__annotations__" => return some (← newDict (f.hints.map fun (p, t) => (.str p, .str t)))
  | "__closure__" => return some .none
  | "__globals__" => return some (.ref f.globals)
  | "__builtins__" => return some (← newDict [])
  | "__code__" =>
    return some (← foreignNew "code" ("<code object " ++ f.name ++ " at 0x7f0000000000, file \"" ++
      f.file ++ "\", line " ++ toString f.firstLine ++ ">"))
  | _ => return none

/-- A field of a built-in value that is no method. -/
def field? (v : Value) (n : String) : Run (Option Value) := do
  match v, n with
  | .bool b, "real" | .bool b, "numerator" => return some (.int (if b then 1 else 0))
  | .bool _, "imag" | .int _, "imag" => return some (.int 0)
  | .bool _, "denominator" | .int _, "denominator" => return some (.int 1)
  | .int k, "real" | .int k, "numerator" => return some (.int k)
  | .float x, "real" => return some (.float x)
  | .float _, "imag" => return some (.float 0)
  | .complex re _, "real" => return some (.float re)
  | .complex _ im, "imag" => return some (.float im)
  | .native m, "__name__" | .native m, "__qualname__" => return some (.str m)
  | .native _, "__module__" => return some (.str "builtins")
  | .native m, "__doc__" => return some (manualText m)
  | .native _, "__self__" => return some (← foreignNew "module" "<module 'builtins' (built-in)>")
  | .native _, "__text_signature__" => return some .none
  | .method _ m, "__name__" => return some (.str m)
  | .method r m, "__qualname__" => return some (.str ((← typeName r) ++ "." ++ m))
  | .method r m, "__doc__" =>
    let c ← match r with
      | .type t => pure t
      | _ => builtinBase (← classOf r)
    return some (((lineage c ++ ["type"]).findSome? fun k =>
      (manualOf? (k ++ "." ++ m)).map fun e => Value.str e.text).getD .none)
  | .method r _, "__self__" => return some r
  | .method _ _, "__module__" | .method _ _, "__text_signature__" => return some .none
  | .slot _ m, "__name__" => return some (.str m)
  | .slot c m, "__qualname__" => return some (.str (c ++ "." ++ m))
  | .slot c m, "__doc__" => return some (manualText (c ++ "." ++ m))
  | .slot c _, "__objclass__" => return some (.type c)
  | .slot _ _, "__text_signature__" => return some .none
  | .bound _ f, "__func__" => return some f
  | .bound r _, "__self__" => return some r
  | .proceed w, "has_value" => return some (.bool !(w matches .noValue))
  | .noValue, "__dict__" => return some (← newDict [])
  | .proceed _, _ | .skip, _ | .breakout .., _ =>
    let fields := v.signalFields?.getD []
    match fields.lookup n, n with
    | some w, _ => return some w
    | none, "__dict__" => return some (← newDict (fields.map fun (k, w) => (.str k, w)))
    | none, "__match_args__" => return some (.tuple (fields.map fun (k, _) => .str k))
    | none, _ => return none
  | .ref a, _ => do
    match ← object a, n with
    | .range lo _ _, "start" => return some (.int lo)
    | .range _ hi _, "stop" => return some (.int hi)
    | .range _ _ step, "step" => return some (.int step)
    | .slice x _ _, "start" => return some x
    | .slice _ y _, "stop" => return some y
    | .slice _ _ z, "step" => return some z
    | .property getter _, "fget" => return some getter
    | .property _ _, "fset" | .property _ _, "fdel" => return some .none
    | .property _ doc, "__doc__" => return some doc
    | .property _ _, "__isabstractmethod__" => return some (.bool false)
    | .classMethod f, "__func__" | .staticMethod f, "__func__"
    | .classMethod f, "__wrapped__" | .staticMethod f, "__wrapped__" => return some f
    | .classMethod f, "__doc__" | .staticMethod f, "__doc__" => getAttr? engine f "__doc__"
    | .partialCall f _ _, "func" => return some f
    | .partialCall _ args _, "args" => return some (.tuple args)
    | .partialCall _ _ ks, "keywords" => return some (← dictOf ks)
    | .partialCall _ _ _, "__dict__" => return some (← newDict [])
    | .function f, _ => functionField? f n
    | .foreign "CommandContext" _, "trailing_text" => return some (.str (← get).trailing)
    | _, _ => return none
  | _, _ => return none

/-- What an exception holds in a field of its class that was not set. -/
def errorDefault? (v : Value) (n : String) : Run (Option Value) := do
  match v with
  | .ref a =>
    match ← object a with
    | .error e =>
      if n == "__dict__" then return some (← dictOf e.attrs)
      else if n == "characters_written" then return none
      else return some .none
    | _ => return none
  | _ => return none

/-- An attribute that a built-in class gives its instances. -/
def builtinAttr? (v : Value) (base n : String) : Run (Option Value) := do
  match ← field? engine v n with
  | some w => return some w
  | none =>
    if n == "__class__" then return some (← classOf v)
    else
      match definingKind? base n with
      | some (owner, plain) =>
        if plain then
          if n == "__doc__" then return some (manualText base)
          else if n == "__hash__" then return some .none
          else errorDefault? v n
        else if classLevelNames.contains n then return some (.method (.type owner) n)
        else return some (.method v n)
      | none => if n == "__doc__" then return some (manualText base) else return none

def instanceAttr (v cls : Value) (fields : Names) (n : String) : Run Value := do
  let found ← definedIn? n (← order cls)
  let isData ← match found with
    | some (.ref a) =>
      match ← object a with
      | .property .. => pure true
      | _ => pure false
    | _ => pure false
  if n == "__class__" then return cls
  else if n == "__dict__" && (← openInstances cls) then dictOf fields
  else
    match found, isData, fields.get? n with
    | some f, true, _ => bindTo engine v cls f
    | _, _, some w => return w
    | some f, false, none =>
      match f with
      | .ref a =>
        match ← object a with
        | .foreign "member_descriptor" _ => missing v n
        | .foreign "getset_descriptor" _ => return .none
        | _ => bindTo engine v cls f
      | _ => bindTo engine v cls f
    | none, _, none =>
      match ← builtinAttr? engine v (← builtinBase cls) n with
      | some w => return w
      | none =>
        match ← definedIn? "__getattr__" (← order cls) with
        | some g => engine.call g [v, .str n] []
        | none => missing v n

def errorField? (e : Exception) (n : String) : Option Value :=
  match n with
  | "args" => some (.tuple e.args)
  | "__cause__" | "__context__" | "__traceback__" => some ((e.attrs.get? n).getD .none)
  | "__suppress_context__" => some ((e.attrs.get? n).getD (.bool false))
  | _ => none

def classAttr (c : Value) (k : Class) (n : String) : Run Value := do
  match n with
  | "__name__" => return .str k.name
  | "__qualname__" => return .str k.qualifiedName
  | "__class__" => return .type "type"
  | "__bases__" => return .tuple k.bases
  | "__base__" => return k.bases.headD .none
  | "__mro__" => return .tuple (← order c)
  | "__dict__" => dictOf k.members
  | _ =>
    match ← definedIn? n (← order c) with
    | some f => bindToClass c f
    | none =>
      match definingKind? (← builtinBase c) n with
      | some (owner, plain) =>
        if plain then fieldOfClass owner n
        else if classLevelNames.contains n then return .method c n
        else return .slot owner n
      | none =>
        match definingKind? "type" n with
        | some (_, false) => return .method c n
        | _ => missingOnClass c n

/-- What a class of signals holds under the name of a field. -/
def signalDefault? (t n : String) : Option Value :=
  match t, n with
  | "Continue", "value" => some .noValue
  | "Breakout", "value" => some .none
  | "Continue", "__match_args__" => some (.tuple [.str "value"])
  | "Skip", "__match_args__" => some (.tuple [])
  | "Breakout", "__match_args__" => some (.tuple [.str "target_level", .str "value"])
  | "_NoValue", "_instance" => some .noValue
  | _, _ => none

def typeAttr (t n : String) : Run Value := do
  match n with
  | "__name__" | "__qualname__" => return .str t
  | "__class__" => return .type "type"
  | "__module__" => return .str (← moduleOf (.type t))
  | "__bases__" => return .tuple ((lineage t).drop 1 |>.take 1 |>.map .type)
  | "__base__" => return (((lineage t)[1]?).map Value.type).getD .none
  | "__mro__" => return .tuple ((lineage t).map .type)
  | "__doc__" => return manualText t
  | "__dict__" => dictOf ((← ownNames? (.type t)).getD {})
  | _ =>
    match signalDefault? t n, definingKind? t n with
    | some v, _ => return v
    | none, some (owner, plain) =>
      if plain then fieldOfClass owner n
      else if classLevelNames.contains n then return .method (.type t) n
      else return .slot owner n
    | none, none =>
      match definingKind? "type" n with
      | some (_, false) => return .method (.type t) n
      | _ => missingOnClass (.type t) n

/-- The classes of an order that follow one of them. -/
def classesAfter (c : Value) (cs : List Value) : List Value :=
  (cs.dropWhile fun d => !d.same c).drop 1

/-- An attribute of a value as an instance of the classes that follow one in its order. -/
def parentAttr (c r : Value) (n : String) : Run Value := do
  let cls ← classOf r
  match ← definedIn? n (classesAfter c (← order cls)) with
  | some f => bindTo engine r cls f
  | none =>
    match ← builtinAttr? engine r (← builtinBase cls) n with
    | some w => return w
    | none => raise "AttributeError" ("'super' object has no attribute " ++ quoteText n)

/-- Reads an attribute. -/
def getAttr (v : Value) (n : String) : Run Value := do
  let builtin : Run Value := do
    match ← builtinAttr? engine v (← typeName v) n with
    | some w => return w
    | none => missing v n
  match v with
  | .type t => typeAttr t n
  | .bound r f =>
    match ← builtinAttr? engine v "method" n with
    | some w => if n == "__doc__" then engine.getAttr f n else return w
    | none =>
      let _ := r
      engine.getAttr f n
  | .ref a =>
    match ← object a with
    | .record c fields => instanceAttr engine v c fields n
    | .error e =>
      match errorField? e n, (← definedIn? n (← order e.cls)) with
      | some w, none => return w
      | _, _ => instanceAttr engine v e.cls e.attrs n
    | .cls k => classAttr v k n
    | .parent c r => parentAttr engine c r n
    | .module name _ vars =>
      match (← namesAt vars).get? n with
      | some w => return w
      | none =>
        if n == "__dict__" then return .ref vars
        else if n == "__class__" then return .type "module"
        else
          match definingKind? "module" n with
          | some (_, false) => return .method v n
          | _ =>
            raise "AttributeError"
              ("module " ++ quoteText name ++ " has no attribute " ++ quoteText n)
    | .function f =>
      match f.attrs.get? n with
      | some w => return w
      | none => builtin
    | _ => builtin
  | _ => builtin

/-- Whether a class fixes the fields of its instances, leaving out a name. -/
def closedTo (c : Value) (n : String) : Run Bool := do
  if ← openInstances c then return false
  else
    match ← definedIn? n (← order c) with
    | some (.ref a) => return !((← object a) matches .foreign "member_descriptor" _)
    | _ => return true

def propertyIn? (c : Value) (n : String) : Run Bool := do
  match ← definedIn? n (← order c) with
  | some (.ref a) => return ((← object a) matches .property ..)
  | _ => return false

def readOnly {α : Type} (v : Value) (n : String) : Run α := do
  let base ← typeName v
  match definingKind? base n with
  | some (owner, true) =>
    raise "AttributeError"
      ("attribute " ++ quoteText n ++ " of " ++ quoteText owner ++ " objects is not writable")
  | some (_, false) =>
    raise "AttributeError"
      (quoteText base ++ " object attribute " ++ quoteText n ++ " is read-only")
  | none => missing v n

/-- Refuses to change a field of a value that never changes. -/
def frozen {α : Type} (change n : String) : Run α :=
  raise "FrozenInstanceError" ("cannot " ++ change ++ " field " ++ quoteText n)

def immutable {α : Type} (c n : String) : Run α :=
  if kindModule c == signalModule then unsupported "changes of the classes of signals"
  else typeError ("cannot set " ++ quoteText n ++ " attribute of immutable type " ++ quoteText c)

/-- Sets an attribute. -/
def setAttr (v : Value) (n : String) (w : Value) : Run Unit := do
  match v with
  | .type c => immutable c n
  | .proceed _ | .skip | .breakout .. => frozen "assign to" n
  | .noValue => unsupported "attributes of NO_VALUE"
  | .ref a =>
    match ← object a with
    | .record c fields =>
      if ← propertyIn? c n then
        raise "AttributeError" ("property " ++ quoteText n ++ " of " ++ quoteText (← className c) ++
          " object has no setter")
      else if ← closedTo c n then missing v n
      else put a (.record c (fields.set n w))
    | .error e =>
      if n == "args" then put a (.error { e with args := ← engine.elements w })
      else put a (.error { e with attrs := e.attrs.set n w })
    | .cls k =>
      match n, w with
      | "__name__", .str s => put a (.cls { k with name := s })
      | "__qualname__", .str s => put a (.cls { k with qualifiedName := s })
      | _, _ => put a (.cls { k with members := k.members.set n w })
    | .module _ _ vars => setName vars n w
    | .function f =>
      match n, w with
      | "__name__", .str s => put a (.function { f with name := s })
      | "__qualname__", .str s => put a (.function { f with qualifiedName := s })
      | "__doc__", _ => put a (.function { f with doc := w })
      | "__module__", _ => put a (.function { f with moduleName := w })
      | _, _ => put a (.function { f with attrs := f.attrs.set n w })
    | _ => readOnly v n
  | _ => readOnly v n

/-- Deletes an attribute. -/
def deleteAttr (v : Value) (n : String) : Run Unit := do
  match v with
  | .type c => immutable c n
  | .proceed _ | .skip | .breakout .. => frozen "delete" n
  | .ref a =>
    match ← object a with
    | .record c fields =>
      if ← propertyIn? c n then
        raise "AttributeError" ("property " ++ quoteText n ++ " of " ++ quoteText (← className c) ++
          " object has no deleter")
      else if fields.contains n then put a (.record c (fields.erase n))
      else missing v n
    | .error e =>
      if e.attrs.contains n then put a (.error { e with attrs := e.attrs.erase n })
      else missing v n
    | .cls k =>
      if k.members.contains n then put a (.cls { k with members := k.members.erase n })
      else missingOnClass v n
    | .module _ _ vars =>
      if (← namesAt vars).contains n then eraseName vars n
      else missing v n
    | .function f =>
      if f.attrs.contains n then put a (.function { f with attrs := f.attrs.erase n })
      else missing v n
    | _ => readOnly v n
  | _ => readOnly v n

def sortNames (ns : List String) : List String :=
  ns.eraseDups.mergeSort fun a b => !(b < a)

/-- The names that a class and those it is based on define. -/
def classNames (c : Value) : Run (List String) := do
  let parts ← (← order c).mapM fun
    | .ref a => do
      match ← object a with
      | .cls k => return k.members.keys
      | _ => return []
    | _ => return []
  return parts.flatten ++ kindNames (← builtinBase c)

/-- The names of a value's attributes, sorted. -/
def directory (v : Value) : Run (List String) := do
  match ← special? v "__dir__" with
  | some f =>
    let r ← engine.call f [v] []
    let names ← (← engine.elements r).mapM engine.text
    return names.mergeSort fun a b => !(b < a)
  | none =>
    match v with
    | .type t => return sortNames (kindNames t)
    | .bound _ f =>
      let own ← match f with
        | .ref a =>
          match ← object a with
          | .function g => pure (kindNames "function" ++ g.attrs.keys)
          | _ => pure []
        | _ => pure []
      return sortNames (kindNames "method" ++ own)
    | .ref a =>
      match ← object a with
      | .record c fields => return sortNames (fields.keys ++ (← classNames c))
      | .error e => return sortNames (e.attrs.keys ++ (← classNames e.cls))
      | .cls _ => return sortNames (← classNames v)
      | .module _ _ vars => return sortNames (← namesAt vars).keys
      | .function f => return sortNames (kindNames "function" ++ f.attrs.keys)
      | _ => return sortNames (kindNames (← typeName v))
    | _ =>
      let fields := (v.signalFields?.getD []).map (·.1)
      return sortNames (fields ++ kindNames (← typeName v))

/-- Whether a value can be called. -/
def callable (v : Value) : Run Bool := do
  match v with
  | .type _ | .native _ | .slot .. | .method .. | .bound .. => return true
  | .ref a =>
    match ← object a with
    | .function _ | .partialCall .. | .cls _ | .staticMethod _ => return true
    | .record c _ => return (← definedIn? "__call__" (← order c)).isSome
    | .error e => return (← definedIn? "__call__" (← order e.cls)).isSome
    | _ => return false
  | _ => return false

end Run

end NestShell.Code

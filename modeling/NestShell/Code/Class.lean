import NestShell.Code.Kind
import NestShell.Code.Machine
import NestShell.Text.Blank
/-!
The class of a value and the order in which classes are searched.
-/
namespace NestShell.Code

def kind? (name : String) : Option Kind := kindTable.find? (·.name == name)

/-- A built-in class and those it is based on; the table lists no class before its base. -/
def lineageFrom : Nat → String → List String
  | 0, _ => []
  | fuel + 1, name =>
    match kind? name with
    | some k => if k.base.isEmpty then [name] else name :: lineageFrom fuel k.base
    | none => [name, "object"]

def lineage (name : String) : List String := lineageFrom kindTable.length name

def isExceptionName (name : String) : Bool := (lineage name).contains "BaseException"

/-- The module of the values that say how the shell goes on. -/
def signalModule : String := "burrow.signals"

/-- The classes of the values that say how the shell goes on. -/
def signalClasses : List String := ["Continue", "Skip", "Breakout"]

/-- The module of a built-in class. -/
def kindModule (name : String) : String :=
  if name == "partial" then "functools"
  else if name == "FrozenInstanceError" then "dataclasses"
  else if name == "_NoValue" || signalClasses.contains name then signalModule
  else "builtins"

/-- Built-in names whose values are objects of other classes than functions. -/
def nativeClass (name : String) : String :=
  if name == "exit" || name == "quit" then "Quitter"
  else if name == "help" then "_Helper"
  else if name == "copyright" || name == "credits" || name == "license" then "_Printer"
  else "builtin_function_or_method"

def builtinName? : Value → Option String
  | .type n => some n
  | _ => none

def isDunder (n : String) : Bool := Text.startsWith n "__" && Text.endsWith n "__"

/-- Special methods that are ordinary built-in methods, unlike those that stand for operators. -/
def plainSpecials : List String :=
  ["__class_getitem__", "__dir__", "__format__", "__getnewargs__", "__getstate__",
    "__init_subclass__", "__new__", "__reduce__", "__reduce_ex__", "__sizeof__",
    "__subclasshook__", "__reversed__", "__round__", "__trunc__", "__ceil__", "__floor__"]

def isWrapper (n : String) : Bool := isDunder n && !plainSpecials.contains n

namespace Run

def classOf : Value → Run Value
  | .none => return .type "NoneType"
  | .ellipsis => return .type "ellipsis"
  | .notImplemented => return .type "NotImplementedType"
  | .bool _ => return .type "bool"
  | .int _ => return .type "int"
  | .float _ => return .type "float"
  | .complex .. => return .type "complex"
  | .str _ => return .type "str"
  | .bytes _ => return .type "bytes"
  | .tuple _ => return .type "tuple"
  | .type _ => return .type "type"
  | .native n => return .type (nativeClass n)
  | .slot _ n => return .type (if isWrapper n then "wrapper_descriptor" else "method_descriptor")
  | .method _ n =>
    return .type (if isWrapper n then "method-wrapper" else "builtin_function_or_method")
  | .bound .. => return .type "method"
  | .view .keys _ => return .type "dict_keys"
  | .view .values _ => return .type "dict_values"
  | .view .items _ => return .type "dict_items"
  | .proceed _ => return .type "Continue"
  | .noValue => return .type "_NoValue"
  | .skip => return .type "Skip"
  | .breakout .. => return .type "Breakout"
  | .ref a => do
    match ← object a with
    | .list _ => return .type "list"
    | .set _ frozen => return .type (if frozen then "frozenset" else "set")
    | .dict _ => return .type "dict"
    | .range .. => return .type "range"
    | .iterator k _ => return .type k
    | .slice .. => return .type "slice"
    | .function _ => return .type "function"
    | .property .. => return .type "property"
    | .classMethod _ => return .type "classmethod"
    | .staticMethod _ => return .type "staticmethod"
    | .partialCall .. => return .type "partial"
    | .parent .. => return .type "super"
    | .cls _ => return .type "type"
    | .record c _ => return c
    | .error e => return e.cls
    | .module .. => return .type "module"
    | .names .. => return .type "dict"
    | .foreign c _ => return .type c

/-- The name of a class. -/
def className (c : Value) : Run String := do
  match c with
  | .type n => return n
  | .ref a =>
    match ← object a with
    | .cls k => return k.name
    | _ => return "object"
  | _ => return "object"

def typeName (v : Value) : Run String := do className (← classOf v)

/-- The classes in which the attributes of a class are looked up. -/
def order (c : Value) : Run (List Value) := do
  match c with
  | .type n => return (lineage n).map .type
  | .ref a =>
    match ← object a with
    | .cls k => return .ref a :: k.order
    | _ => return []
  | _ => return []

def isClass (v : Value) : Run Bool := do
  match v with
  | .type _ => return true
  | .ref a => return ((← object a) matches .cls _)
  | _ => return false

def subclassOf (c d : Value) : Run Bool := do return (← order c).any d.same

def instanceOf (v c : Value) : Run Bool := do subclassOf (← classOf v) c

/-- The exception class name that a class descends from, for classes of programs as well. -/
def isException (c : Value) : Run Bool := subclassOf c (.type "BaseException")

/-- The nearest built-in class. -/
def builtinBase (c : Value) : Run String := do
  return ((← order c).findSome? builtinName?).getD "object"

end Run

end NestShell.Code

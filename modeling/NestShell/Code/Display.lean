import NestShell.Code.Complaint
import NestShell.Code.Complex
import NestShell.Code.Engine
import NestShell.Text.Numeral
import NestShell.Text.Quoted
/-!
Values as text: the form in which a value is shown, which a program can read back for plain values,
and the text as which it is printed. Classes of programs may define either form.
-/
namespace NestShell.Code

open NestShell.Text

/-- The text of an object's address. -/
def addressText (a : Nat) : String :=
  "0x" ++ String.ofList (hexDigits 12 (0x7F0000000000 + 16 * a))

def longestInt : Nat := Nat.pow 10 digitLimit

namespace Run

variable (engine : Engine)

def intText (n : Int) : Run String :=
  if n.natAbs ≥ longestInt then
    valueError ("Exceeds the limit (4300 digits) for integer string conversion; use " ++
      "sys.set_int_max_str_digits() to increase the limit")
  else return toString n

def shownAll (vs : List Value) : Run (List String) := vs.mapM engine.shown

def joined (opening close : String) (vs : List Value) : Run String := do
  return opening ++ ", ".intercalate (← shownAll engine vs) ++ close

def shownTuple (vs : List Value) : Run String := do
  match vs with
  | [v] => return "(" ++ (← engine.shown v) ++ ",)"
  | _ => joined engine "(" ")" vs

def shownEntries (es : List (Value × Value)) : Run String := do
  let parts ← es.mapM fun (k, v) => do return (← engine.shown k) ++ ": " ++ (← engine.shown v)
  return "\x7b" ++ ", ".intercalate parts ++ "\x7d"

/-- Shows a container; inside itself it is shown as `inner`. -/
def guarded (a : Nat) (inner : String) (p : Run String) : Run String := do
  if (← get).showing.contains a then return inner
  else
    let before := (← get).showing
    modify fun m => { m with showing := a :: before }
    let s ← p
    modify fun m => { m with showing := before }
    return s

def moduleOf (c : Value) : Run String := do
  match c with
  | .type n => return kindModule n
  | .ref a =>
    match ← object a with
    | .cls k =>
      match k.members.get? "__module__" with
      | some (.str s) => return s
      | _ => return "builtins"
    | _ => return "builtins"
  | _ => return "builtins"

/-- A class with its module, unless it is built in. -/
def classPath (c : Value) : Run String := do
  let name ← match c with
    | .ref a =>
      match ← object a with
      | .cls k => pure k.qualifiedName
      | _ => pure "object"
    | c => className c
  let m ← moduleOf c
  return if m == "builtins" then name else m ++ "." ++ name

def atAddress (what : String) (a : Nat) : String := "<" ++ what ++ " at " ++ addressText a ++ ">"

/-- An address for a value that has none of its own. -/
def addressOf : Value → Nat
  | .ref a => a
  | _ => 1

def qualifiedName (v : Value) : Run String := do
  match v with
  | .ref a =>
    match ← object a with
    | .function f => return f.qualifiedName
    | .cls k => return k.qualifiedName
    | _ => return "?"
  | .type n => return n
  | .native n => return n
  | _ => return "?"

def shownNative (n : String) : String :=
  if n == "exit" || n == "quit" then "Use " ++ n ++ "() or Ctrl-D (i.e. EOF) to exit"
  else if n == "help" then
    "Type help() for interactive help, or help(object) for help about object."
  else "<built-in function " ++ n ++ ">"

def shownError (e : Exception) : Run String := do
  let name ← className e.cls
  match e.args with
  | [v] => return name ++ "(" ++ (← engine.shown v) ++ ")"
  | vs => return name ++ (← joined engine "(" ")" vs)

/-- The fields of a value behind the name of its class. -/
def shownFields (fields : List (String × Value)) (v : Value) : Run String := do
  let parts ← fields.mapM fun (n, w) => do return n ++ "=" ++ (← engine.shown w)
  return (← typeName v) ++ "(" ++ ", ".intercalate parts ++ ")"

def shownObject (a : Nat) : Run String := do
  match ← object a with
  | .list items => guarded a "[...]" (joined engine "[" "]" items.toList)
  | .set [] frozen => return if frozen then "frozenset()" else "set()"
  | .set items frozen => guarded a (if frozen then "frozenset(...)" else "set(...)") do
      let s ← joined engine "\x7b" "\x7d" items
      return if frozen then "frozenset(" ++ s ++ ")" else s
  | .dict es => guarded a "\x7b...\x7d" (shownEntries engine es)
  | .names t _ => guarded a "\x7b...\x7d" do
      shownEntries engine (t.entries.map fun (n, v) => (.str n, v))
  | .range lo hi step =>
    return "range(" ++ toString lo ++ ", " ++ toString hi ++
      (if step == 1 then ")" else ", " ++ toString step ++ ")")
  | .iterator k _ => return atAddress (k ++ " object") a
  | .slice x y z => joined engine "slice(" ")" [x, y, z]
  | .function f => return atAddress ("function " ++ f.qualifiedName) a
  | .property .. => return atAddress "property object" a
  | .classMethod f => return "<classmethod(" ++ (← engine.shown f) ++ ")>"
  | .staticMethod f => return "<staticmethod(" ++ (← engine.shown f) ++ ")>"
  | .partialCall f args ks => do
    let named ← ks.entries.mapM fun (n, v) => do return n ++ "=" ++ (← engine.shown v)
    return "functools.partial(" ++
      ", ".intercalate ((← shownAll engine (f :: args)) ++ named) ++ ")"
  | .parent c r =>
    return "<super: <class '" ++ (← className c) ++ "'>, <" ++ (← typeName r) ++ " object>>"
  | .cls _ => return "<class '" ++ (← classPath (.ref a)) ++ "'>"
  | .record c _ => return atAddress ((← classPath c) ++ " object") a
  | .error e => shownError engine e
  | .module n none _ => return "<module '" ++ n ++ "'>"
  | .module n (some f) _ => return "<module '" ++ n ++ "' from '" ++ f ++ "'>"
  | .foreign _ s => return s

/-- The built-in form of a value. -/
def plainShown (v : Value) : Run String := do
  match v with
  | .none => return "None"
  | .ellipsis => return "Ellipsis"
  | .notImplemented => return "NotImplemented"
  | .bool b => return if b then "True" else "False"
  | .int n => intText n
  | .float x => return Decimal.write x
  | .complex re im => return Complex.shown re im
  | .str s => return quoted s
  | .bytes bs => return quotedBytes bs
  | .tuple vs => shownTuple engine vs
  | .type _ => return "<class '" ++ (← classPath v) ++ "'>"
  | .native n => return shownNative n
  | .slot c n =>
    return (if isWrapper n then "<slot wrapper '" else "<method '") ++ n ++ "' of '" ++ c ++
      "' objects>"
  | .method r n =>
    return atAddress ((if isWrapper n then "method-wrapper '" ++ n ++ "'"
      else "built-in method " ++ n) ++ " of " ++ (← typeName r) ++ " object") (addressOf r)
  | .bound r f =>
    return "<bound method " ++ (← qualifiedName f) ++ " of " ++ (← engine.shown r) ++ ">"
  | .view k a =>
    let es ← match ← object a with
      | .dict es => pure es
      | .names t _ => pure (t.entries.map fun (n, v) => (Value.str n, v))
      | _ => pure []
    match k with
    | .keys => joined engine "dict_keys([" "])" (es.map (·.1))
    | .values => joined engine "dict_values([" "])" (es.map (·.2))
    | .items => joined engine "dict_items([" "])" (es.map fun (k, v) => .tuple [k, v])
  | .noValue => return "NO_VALUE"
  | .proceed _ | .skip | .breakout .. => shownFields engine (v.signalFields?.getD []) v
  | .ref a => shownObject engine a

/-- Calls a special method that must give a text. -/
def textFrom (method : String) (f v : Value) : Run String := do
  match ← engine.call f [v] [] with
  | .str s => return s
  | r => typeError (method ++ " returned non-string (type " ++ (← typeName r) ++ ")")

def shown (v : Value) : Run String := do
  match ← special? v "__repr__" with
  | some f => textFrom engine "__repr__" f v
  | none => plainShown engine v

def attr (e : Exception) (n : String) : Value := (e.attrs.get? n).getD .none

/-- The last part of a path. -/
def fileName (path : String) : String := ((splitOnChar '/' path).getLast?).getD path

/-- The place that the text of a fault of form ends with. -/
def placeText (e : Exception) : String :=
  match attr e "filename", attr e "lineno" with
  | .str f, .int n => " (" ++ fileName f ++ ", line " ++ toString n ++ ")"
  | .str f, _ => " (" ++ fileName f ++ ")"
  | _, .int n => " (line " ++ toString n ++ ")"
  | _, _ => ""

def argsText (e : Exception) : Run String := do
  match e.args with
  | [] => return ""
  | [v] => engine.text v
  | vs => shownTuple engine vs

def hexOf (b : UInt8) : String := String.ofList (hexDigits 2 b.toNat)

/-- The place that a fault of coding is about. -/
def codingPlace (lo hi : Int) : String :=
  if hi == lo + 1 then "in position " ++ toString lo
  else "in position " ++ toString lo ++ "-" ++ toString (hi - 1)

/-- A character as the report of a fault of coding writes it. -/
def escapedChar (c : Char) : String :=
  let n := c.toNat
  if n < 0x100 then "\\x" ++ String.ofList (hexDigits 2 n)
  else if n < 0x10000 then "\\u" ++ String.ofList (hexDigits 4 n)
  else "\\U" ++ String.ofList (hexDigits 8 n)

/-- The text of a fault of coding, made from its attributes. -/
def codingText (e : Exception) : Run String := do
  match attr e "encoding", attr e "object", attr e "start", attr e "end" with
  | .str enc, .bytes bs, .int lo, .int hi =>
    let what := match bs[lo.toNat]? with
      | some b => if hi == lo + 1 then "byte 0x" ++ hexOf b else "bytes"
      | none => "bytes"
    return quoteText enc ++ " codec can't decode " ++ what ++ " " ++ codingPlace lo hi ++ ": " ++
      (← engine.text (attr e "reason"))
  | .str enc, .str s, .int lo, .int hi =>
    let what := match s.toList[lo.toNat]? with
      | some c => if hi == lo + 1 then "character " ++ quoteText (escapedChar c) else "characters"
      | none => "characters"
    return quoteText enc ++ " codec can't encode " ++ what ++ " " ++ codingPlace lo hi ++ ": " ++
      (← engine.text (attr e "reason"))
  | _, .str s, .int lo, .int hi =>
    let what := match s.toList[lo.toNat]? with
      | some c => if hi == lo + 1 then "character " ++ quoteText (escapedChar c) else "characters"
      | none => "characters"
    return "can't translate " ++ what ++ " " ++ codingPlace lo hi ++ ": " ++
      (← engine.text (attr e "reason"))
  | _, _, _, _ => argsText engine e

/-- The text of an exception of a built-in class. -/
def errorText (e : Exception) : Run String := do
  let ancestry ← order e.cls
  let isA (n : String) : Bool := ancestry.any (Value.same (.type n))
  if isA "KeyError" then
    match e.args with
    | [v] => engine.shown v
    | _ => argsText engine e
  else if isA "OSError" then
    match attr e "errno", attr e "strerror", attr e "filename" with
    | .none, _, _ => argsText engine e
    | _, .none, _ => argsText engine e
    | n, s, f => do
      let front := "[Errno " ++ (← engine.text n) ++ "] " ++ (← engine.text s)
      if f.isNone then return front
      else
        let f2 := attr e "filename2"
        let back ← if f2.isNone then pure "" else do pure (" -> " ++ (← engine.shown f2))
        return front ++ ": " ++ (← engine.shown f) ++ back
  else if isA "SyntaxError" then return (← engine.text (attr e "msg")) ++ placeText e
  else if isA "UnicodeError" then codingText engine e
  else argsText engine e

def text (v : Value) : Run String := do
  match v with
  | .str s => return s
  | _ =>
    match ← special? v "__str__" with
    | some f => textFrom engine "__str__" f v
    | none =>
      match v with
      | .ref a =>
        match ← object a with
        | .error e => errorText engine e
        | _ => engine.shown v
      | _ => engine.shown v

end Run

end NestShell.Code

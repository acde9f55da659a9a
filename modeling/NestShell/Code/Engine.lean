import NestShell.Code.Class
import NestShell.Code.Key
/-!
The parts of the interpreter that call each other. Each part is defined over an `Engine` that holds
all of them; `Interpreter` ties the knot.
-/
namespace NestShell.Code

/-- Where code runs: its global and local variables and those of the functions around it. -/
structure Frame where
  globals : Nat
  locals : Nat
  enclosing : List Nat
  isFunction : Bool
  /-- The names that the function binds. -/
  bound : List String
  /-- The names that the code declares global. -/
  declared : List String
  file : String
  /-- What stands before the names of functions and classes made here. -/
  path : String
  /-- The class whose body is run, or in whose body the function stands. -/
  owner : Option Nat

structure Engine where
  eval : Frame → Expr → Run Value
  exec : Frame → List Stmt → Run Flow
  call : Value → List Value → List (String × Value) → Run Value
  getAttr : Value → String → Run Value
  /-- The form in which a value is shown. -/
  shown : Value → Run String
  /-- The text a value is printed as. -/
  text : Value → Run String
  equal : Value → Value → Run Bool
  /-- The elements that a loop over the value visits. -/
  elements : Value → Run (List Value)

namespace Run

variable {α : Type}

/-- The class of an exception object. -/
def exceptionClass (e : Nat) : Run Value := do
  match ← exceptionAt e with
  | some x => return x.cls
  | none => return .type "Exception"

/-- Catches the exceptions of one built-in class. -/
def catchingOnly (className : String) (p : Run α) (handler : Nat → Run α) : Run α :=
  catching p fun e => do
    if ← subclassOf (← exceptionClass e) (.type className) then handler e else throw (.raised e)

/-- An attribute, unless there is none. -/
def getAttr? (engine : Engine) (v : Value) (n : String) : Run (Option Value) :=
  catchingOnly "AttributeError" (do return some (← engine.getAttr v n)) fun _ => return none

/-- What the classes of a value's class order define under a name, in programs. -/
def definedIn? (n : String) : List Value → Run (Option Value)
  | [] => return none
  | .ref a :: cs => do
    match ← object a with
    | .cls k =>
      match k.members.get? n with
      | some v => return some v
      | none => definedIn? n cs
    | _ => definedIn? n cs
  | _ :: cs => definedIn? n cs

/-- A special method that a class of a program defines for a value. -/
def special? (v : Value) (n : String) : Run (Option Value) := do
  match v with
  | .ref a =>
    match ← object a with
    | .record c _ => definedIn? n (← order c)
    | .error e => definedIn? n (← order e.cls)
    | _ => return none
  | _ => return none

end Run

end NestShell.Code

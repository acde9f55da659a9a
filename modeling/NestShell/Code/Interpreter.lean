import NestShell.Code.Execute
/-!
The interpreter: its parts, each defined over an engine, tied together. An engine of one level of
fuel more hands its calls to the engine below.
-/
namespace NestShell.Code

namespace Run

variable (engine : Engine)

def notCallable (v : Value) : Run Value := do
  typeError (quoteStart 200 (← typeName v) ++ " object is not callable")

/-- Calls a value. -/
def callValue (v : Value) (args : List Value) (keywords : List (String × Value)) : Run Value := do
  match v with
  | .type n => makeBuiltin engine n args keywords
  | .native n => callNative engine n args keywords
  | .slot c n => callSlot engine c n args keywords
  | .method r n => callMethod engine r n args keywords
  | .bound r f => engine.call f (r :: args) keywords
  | .ref a =>
    match ← object a with
    | .function f => callFunction engine f args keywords
    | .cls _ => instantiate engine v args keywords
    | .partialCall f front ks =>
      engine.call f (front ++ args) (ks.merge ⟨keywords⟩).entries
    | .staticMethod f => engine.call f args keywords
    | .record c _ => callWith c
    | .error e => callWith e.cls
    | _ => notCallable v
  | _ => notCallable v
where
  callWith (c : Value) : Run Value := do
    match ← definedIn? "__call__" (← order c) with
    | some f => engine.call f (v :: args) keywords
    | none => notCallable v

end Run

/-- The engine that never finishes. -/
def idleEngine : Engine where
  eval _ _ := throw .outOfFuel
  exec _ _ := throw .outOfFuel
  call _ _ _ := throw .outOfFuel
  getAttr _ _ := throw .outOfFuel
  shown _ := throw .outOfFuel
  text _ := throw .outOfFuel
  equal _ _ := throw .outOfFuel
  elements _ := throw .outOfFuel

/-- The engine whose calls may be nested `fuel` deep. -/
def engineOf : Nat → Engine
  | 0 => idleEngine
  | fuel + 1 => {
      eval := fun frame e m => Run.evalExpr (engineOf fuel) frame e m
      exec := fun frame ss m => Run.execAll (engineOf fuel) frame ss m
      call := fun v args keywords m => Run.callValue (engineOf fuel) v args keywords m
      getAttr := fun v n m => Run.getAttr (engineOf fuel) v n m
      shown := fun v m => Run.shown (engineOf fuel) v m
      text := fun v m => Run.text (engineOf fuel) v m
      equal := fun v w m => Run.equal (engineOf fuel) v w m
      elements := fun v m => Run.elements (engineOf fuel) v m }

/-- Deeper than any program that the depth of calls allows. -/
def engine : Engine := engineOf 1000000

end NestShell.Code

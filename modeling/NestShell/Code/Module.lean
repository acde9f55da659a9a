import NestShell.Code.Scope
/-!
Modules that programs can load: those made from the text of a file, the one of the language's own
library that programs here use, and the one of the shell's signals.
-/
namespace NestShell.Code.Run

/-- Makes a module known under its name. -/
def addModule (name : String) (file : Option String) (names : Names) : Run Nat := do
  let vars ← alloc (.names names none)
  let address ← alloc (.module name file vars)
  modify fun m => { m with modules := Table.set name address m.modules }
  return vars

/-- The module of tools for functions. -/
def addFunctionTools : Run Unit := do
  let _ ← addModule "functools" none
    (Names.ofList (moduleNames "functools" ++ [("partial", .type "partial")]))

/-- The module of the shell with its signals. -/
def addSignals : Run Unit := do
  let classes := ("_NoValue" :: signalClasses).map fun n => (n, Value.type n)
  let _ ← addModule signalModule none
    (Names.ofList (moduleNames signalModule ++ ("NO_VALUE", .noValue) :: classes))
  match (← get).modules.lookup signalModule with
  | some a =>
    let _ ← addModule "burrow" none (Names.ofList (moduleNames "burrow" ++ [("signals", .ref a)]))
  | none => return

/-- A machine with the modules that need no file. -/
def library : Machine :=
  match (do addFunctionTools; addSignals : Run Unit) {} with
  | .ok _ m => m
  | .error _ m => m

/-- Runs the text of a file as a module. Its lines stay known. Gives the module's variables. -/
def loadModule (name file text : String) : Run Nat := do
  let vars ← addModule name (some file)
    (Names.ofList (moduleNames name ++ [("__file__", .str file)]))
  let ls := Text.splitOnChar '\n' text
  let ls := if ls.getLast? == some "" then ls.dropLast else ls
  modify fun m => { m with sources := Table.set file ls m.sources }
  setName vars Scope.hidden (← Scope.builtinsModule)
  let body ← readText text
  setName vars "__doc__" (docOf body)
  let frame : Frame :=
    { globals := vars, locals := vars, enclosing := [], isFunction := false, bound := [],
      declared := [], file := file, path := "", owner := none }
  discard (entering frame (engine.exec frame body))
  return vars

/-- The module that is known under a name. -/
def moduleOf? (name : String) : Run (Option Value) := do
  return ((← get).modules.lookup name).map Value.ref

end NestShell.Code.Run

import NestShell.Code.Completeness
import NestShell.Code.Interpreter
/-!
Where a session evaluates: global variables, and either the same variables as locals or local
variables that fall back to the attributes of a receiver. A text is evaluated in two parts, its
statements and then a final expression, whose value is the value of the text.
-/
namespace NestShell.Code

structure Scope where
  receiver : Value
  globals : Nat
  locals : Nat
  file : Option String := none
  line : Option Nat := none
  functionName : Option String := none
  toplevel : Bool := false

/-- The name of the module in which top-level sessions evaluate. -/
def topName : String := "__burrow__"

/-- What evaluated text is said to come from. -/
def evaluatedFile : String := "(burrow)"

/-- The names that a module starts with. -/
def moduleNames (name : String) : List (String × Value) :=
  [("__name__", .str name), ("__doc__", .none), ("__package__", .none), ("__loader__", .none),
    ("__spec__", .none)]

namespace Scope

def hidden : String := "__builtins__"

/-- The module of the built-in names, as programs see it. -/
def builtinsModule : Run Value := Run.foreignNew "module" "<module 'builtins' (built-in)>"

/-- A fresh module. -/
def newModule (name : String) (more : List (String × Value)) : Run Value := do
  let vars ← Run.alloc (.names (Names.ofList (moduleNames name ++ more)) none)
  Run.new (.module name none vars)

/-- The scope of a session that was started on no object. -/
def top (namespace_ : List (String × Value)) : Run Scope := do
  let table := Names.ofList (moduleNames topName ++ [(hidden, ← builtinsModule)])
  let vars ← Run.alloc (.names (table.merge (Names.ofList namespace_)) none)
  let receiver ← Run.new (.module topName none vars)
  return { receiver := receiver, globals := vars, locals := vars, toplevel := true }

/-- Local variables behind which a receiver stands. -/
def receiverTable (receiver : Value) (start : Names) : Run Nat := do
  let table := if start.contains "self" then start else start.set "self" receiver
  Run.alloc (.names table (some receiver))

/-- The scope of a nested session on a receiver. -/
def child (s : Scope) (receiver : Value) : Run Scope := do
  return {
    receiver := receiver
    globals := s.globals
    locals := ← receiverTable receiver {} }

/-- The scope of a function that is being run. -/
def ofFunction (globals : Nat) (bindings : Names) (file : String) (line : Nat) (name : String) :
    Run Scope := do
  let receiver := (bindings.get? "self").getD .none
  return {
    receiver := receiver
    globals := globals
    locals := ← receiverTable receiver bindings
    file := some file
    line := some line
    functionName := some name }

/-- The scope of the code of a module that is being run. -/
def ofModule (receiver : Value) (globals : Nat) (file : String) (line : Nat) : Scope :=
  { receiver := receiver, globals := globals, locals := globals, file := some file,
    line := some line, toplevel := true }

def setLocal (s : Scope) (n : String) (v : Value) : Run Unit := Run.setName s.locals n v

def getLocal? (s : Scope) (n : String) : Run (Option Value) := do
  return (← Run.namesAt s.locals).get? n

def localNames (s : Scope) : Run (List String) := do
  return (← Run.namesAt s.locals).keys.filter fun n => n != "self" && n != hidden

def globalNames (s : Scope) : Run (List String) := do
  return (← Run.namesAt s.globals).keys.filter (· != hidden)

/-- All names that can begin an expression here, sorted. -/
def completionNames (s : Scope) : Run (List String) := do
  let own ← s.localNames
  let global ← s.globalNames
  let attributes ← Run.catchingOnly "Exception" (Run.directory engine s.receiver) fun _ =>
    return []
  return Run.sortNames (own ++ global ++ builtinNames ++ attributes)

/-- Where a program runs. Where the local variables are the global ones, declarations say
nothing. -/
def frame (s : Scope) (program : List Stmt) : Frame where
  globals := s.globals
  locals := s.locals
  enclosing := []
  isFunction := false
  bound := []
  declared := if s.locals == s.globals then [] else Binding.ofProgram program
  file := evaluatedFile
  path := ""
  owner := none

end Scope

namespace Run

/-- Raises the fault of a text that is no program. -/
def throwSyntax {α : Type} (f : SyntaxFault) : Run α :=
  throwValue (.type f.complaint.className) [.str f.complaint.message]
    (Names.ofList [("msg", .str f.complaint.message), ("filename", .str evaluatedFile),
      ("lineno", .int f.line)])

def orThrow {α : Type} : Except SyntaxFault α → Run α
  | .ok a => return a
  | .error f => throwSyntax f

/-- Reads a program. -/
def readText (text : String) : Run (List Stmt) := do
  match Grammar.readProgram text with
  | .ok ss => return ss
  | .error (.fault f) => throwSyntax f
  | .error .incomplete => throwSyntax ⟨.incompleteInput, 1⟩
  | .error .outOfFuel => throw .outOfFuel

/-- The statements of a program and the expression that it ends with. -/
def splitTail (ss : List Stmt) : List Stmt × Option Expr :=
  match ss.getLast? with
  | some (.expr _ e) => (ss.dropLast, some e)
  | _ => (ss, none)

/-- Makes a place for the annotations of a program. -/
def bindHints (frame : Frame) (program : List Stmt) : Run Unit := do
  if program.any (Binding.annotates Check.deepest) then
    if (← localName? engine frame.locals hintTable).isNone then
      setName frame.locals hintTable (← newDict [])

/-- Binds the text with which a program begins. -/
def bindDoc (frame : Frame) (program : List Stmt) : Run Unit :=
  match docOf program with
  | .none => return
  | doc => writeName frame "__doc__" doc

/-- Readies a frame for a program. -/
def prepare (frame : Frame) (program : List Stmt) : Run Unit := do
  bindHints frame program
  bindDoc frame program

def runBody (scope : Scope) (body : List Stmt) : Run Unit := do
  orThrow (Check.program body)
  let frame := scope.frame body
  prepare frame body
  discard (entering frame (execAll engine frame body))

def runTail (scope : Scope) (tail : Expr) : Run Value := do
  orThrow (Check.expression tail)
  let frame := scope.frame [.expr tail.line tail]
  entering frame do
    atLine tail.line
    engine.eval frame tail

end Run

/-- How an evaluation ends: with a value, or with an exception that it reports. -/
inductive Evaluation where
  | value (v : Value)
  | failed (exception : Nat)

/-- Runs code for its value. Exceptions of the class `Exception` are reported. -/
def Run.reporting (p : Run Value) : Run Evaluation :=
  catchingOnly "Exception" (do return .value (← p)) fun e => return .failed e

/-- Runs the statements of a text, and then the expression that it ends with, for its value. -/
def Scope.runText (s : Scope) (text : String) : Run Value := do
  let (body, tail) := Run.splitTail (← Run.readText text)
  if !body.isEmpty then Run.runBody s body
  match tail with
  | some e => Run.runTail s e
  | none => return .none

/-- Evaluates a text in a scope. Exceptions of programs are reported; those that end programs, and
the fault of a text with a NUL character, go on as they are. -/
def Scope.evaluate (s : Scope) (source : String) : Run Evaluation := do
  let text := Text.trimOf ['\n'] source
  if Text.isAllBlank text then return .value .none
  else if Text.containsChar '\x00' text then
    Run.valueError "source code string cannot contain null bytes"
  else
    Run.reporting (s.runText text)

end NestShell.Code

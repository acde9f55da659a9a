import NestShell.Code.Names
import NestShell.Code.Tree
/-!
The state in which programs run: objects with an identity, the text printed, and the line being
executed. A run ends with a value or with an exception, itself an object; running out of fuel is
told apart from both.
-/
namespace NestShell.Code

/-- A function written in a program. -/
structure Function where
  name : String
  qualifiedName : String
  moduleName : Value
  file : String
  /-- The first and last line of its text, decorators included. -/
  firstLine : Nat
  lastLine : Nat
  doc : Value
  params : List (ParamKind × String)
  defaults : List (String × Value)
  /-- The texts of its annotations. -/
  hints : List (String × String) := []
  body : List Stmt
  /-- Whether a call gives something that is run bit by bit. -/
  suspends : Bool := false
  globals : Nat
  /-- The variables of the enclosing functions, the nearest first. -/
  closure : List Nat
  /-- The names that the body binds. -/
  locals : List String
  /-- The names that the body declares global. -/
  declared : List String := []
  /-- The class in whose body the function stands. -/
  owner : Option Nat
  attrs : Names

/-- A class written in a program. `order` is where attributes are looked up, itself first. -/
structure Class where
  name : String
  qualifiedName : String
  bases : List Value
  order : List Value
  members : Names
  file : String
  firstLine : Nat
  lastLine : Nat

/-- An exception object. `origin` is the line of the program in which it was first raised. -/
structure Exception where
  cls : Value
  args : List Value
  attrs : Names
  origin : Option (String × Nat)

inductive Object where
  | list (items : Array Value)
  | set (items : List Value) (frozen : Bool)
  | dict (entries : List (Value × Value))
  | range (start stop step : Int)
  | iterator (kind : String) (items : List Value)
  | slice (low high step : Value)
  | function (f : Function)
  | property (getter doc : Value)
  | classMethod (f : Value)
  | staticMethod (f : Value)
  | partialCall (f : Value) (args : List Value) (keywords : Names)
  /-- A value seen as an instance of the classes after one in its order. -/
  | parent (cls receiver : Value)
  | cls (c : Class)
  | record (cls : Value) (fields : Names)
  | error (e : Exception)
  | module (name : String) (file : Option String) (vars : Nat)
  /-- Variables; names missing in it may be attributes of a receiver. -/
  | names (table : Names) (receiver : Option Value)
  /-- An object of the surroundings, known by its class and its printed form. -/
  | foreign (className shown : String)

structure Machine where
  heap : Array Object := #[]
  /-- What was printed. -/
  output : String := ""
  line : Nat := 0
  depth : Nat := 0
  /-- Containers whose printed form is being made. -/
  showing : List Nat := []
  /-- The exceptions being handled, the latest first. -/
  handling : List Nat := []
  modules : List (String × Nat) := []
  /-- The lines of source files. -/
  sources : List (String × List String) := []
  /-- The text that the context of a command gives as the one after its word. -/
  trailing : String := ""

inductive Fault where
  | raised (exception : Nat)
  | outOfFuel

abbrev Run := EStateM Fault Machine

/-- What a statement leads to. -/
inductive Flow where
  | next
  | ret (v : Value)
  | stop
  | again

namespace Run

def alloc (o : Object) : Run Nat := fun m => .ok m.heap.size { m with heap := m.heap.push o }

def new (o : Object) : Run Value := return .ref (← alloc o)

def object (a : Nat) : Run Object := do return (← get).heap[a]?.getD (.list #[])

def put (a : Nat) (o : Object) : Run Unit :=
  modify fun m => { m with heap := m.heap.setIfInBounds a o }

def newList (items : List Value) : Run Value := new (.list items.toArray)

def newDict (entries : List (Value × Value)) : Run Value := new (.dict entries)

def write (s : String) : Run Unit := modify fun m => { m with output := m.output ++ s }

def atLine (line : Nat) : Run Unit := modify fun m => { m with line := line }

variable {α : Type}

def throwValue (cls : Value) (args : List Value) (attrs : Names) : Run α := do
  throw (.raised (← alloc (.error ⟨cls, args, attrs, none⟩)))

/-- Raises an exception of a built-in class with a message. -/
def raise (className message : String) : Run α := throwValue (.type className) [.str message] {}

def raiseBare (className : String) : Run α := throwValue (.type className) [] {}

def typeError (message : String) : Run α := raise "TypeError" message

def valueError (message : String) : Run α := raise "ValueError" message

/-- Refuses what programs here cannot do, although the language has it. -/
def unsupported (what : String) : Run α :=
  raise "NotImplementedError" (what ++ " are not supported")

/-- The variables at an address. -/
def namesAt (a : Nat) : Run Names := do
  match ← object a with
  | .names t _ => return t
  | _ => return {}

def setName (a : Nat) (n : String) (v : Value) : Run Unit := do
  match ← object a with
  | .names t r => put a (.names (t.set n v) r)
  | _ => return

def eraseName (a : Nat) (n : String) : Run Unit := do
  match ← object a with
  | .names t r => put a (.names (t.erase n) r)
  | _ => return

/-- Runs the code of one frame, which has lines of its own. An exception that leaves the frame
remembers the line of the first frame it left, among frames of the file that `marks` names. -/
def inFrame (marks : Option String) (p : Run α) : Run α := fun m =>
  match p { m with depth := m.depth + 1 } with
  | .ok a m' => .ok a { m' with line := m.line, depth := m.depth }
  | .error (.raised e) m' =>
    let heap := match marks, m'.heap[e]? with
      | some file, some (.error x) =>
        if x.origin.isNone then m'.heap.setIfInBounds e (.error { x with origin := (file, m'.line) })
        else m'.heap
      | _, _ => m'.heap
    .error (.raised e) { m' with heap := heap, line := m.line, depth := m.depth }
  | .error f m' => .error f m'

/-- Runs a piece of the code of a frame. It leaves the calls it made, so that the next piece begins
at the depth at which it began. -/
def inPlace (p : Run α) : Run α := fun m =>
  match p m with
  | .ok a m' => .ok a { m' with depth := m.depth }
  | r => r

/-- Catches exceptions, whose faults of fuel pass. -/
def catching (p : Run α) (handler : Nat → Run α) : Run α := fun m =>
  match p m with
  | .error (.raised e) m' => handler e { m' with depth := m.depth, showing := m.showing }
  | r => r

def exceptionAt (a : Nat) : Run (Option Exception) := do
  match ← object a with
  | .error e => return some e
  | _ => return none

end Run

end NestShell.Code

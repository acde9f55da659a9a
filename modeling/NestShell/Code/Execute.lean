import NestShell.Code.Matching
/-!
Running statements: assignments, branches and loops, exceptions and their handlers, and the making
of functions and classes.
-/
namespace NestShell.Code.Run

variable (engine : Engine)

/-! ## Classes -/

/-- Joins the orders of the bases of a class: each step takes the first class that no order wants
later. -/
def mergeOrders : Nat → List (List Value) → Option (List Value)
  | 0, _ => none
  | fuel + 1, rows =>
    let rows := rows.filter fun r => !r.isEmpty
    if rows.isEmpty then some []
    else
      let isLater (c : Value) : Bool := rows.any fun r => (r.drop 1).any c.same
      match rows.findSome? fun r => r.head?.filter fun c => !isLater c with
      | none => none
      | some c =>
        (mergeOrders fuel (rows.map fun r =>
          match r with
          | d :: ds => if d.same c then ds else r
          | [] => [])).map (c :: ·)

/-- The classes after a class in its order. -/
def orderOf (bases : List Value) : Run (List Value) := do
  let rows ← bases.mapM order
  match firstTwice bases with
  | some c => typeError ("duplicate base class " ++ (← className c))
  | none =>
    match mergeOrders (rows.flatten.length + bases.length + 1) (rows ++ [bases]) with
    | some cs => return cs
    | none =>
      typeError ("Cannot create a consistent method resolution\norder (MRO) for bases " ++
        ", ".intercalate (← bases.mapM className))
where
  firstTwice : List Value → Option Value
    | [] => none
    | c :: cs => if cs.any c.same then some c else firstTwice cs

/-- The fields that a class fixes for its instances. -/
def slotNames (v : Value) : Run (List String) := do
  match v with
  | .str s => return [s]
  | v => (← engine.elements v).mapM engine.text

/-- The members of a class: those that its body bound, and those that every class has. -/
def membersOf (name : String) (bases : List Value) (body : Names) : Run Names := do
  let written := body.erase "__qualname__"
  match written.get? "__slots__" with
  | some v =>
    let slots ← slotNames engine v
    let members ← slots.foldlM (fun (t : Names) s => do
      return t.set s (← foreignNew "member_descriptor"
        ("<member \x27" ++ s ++ "\x27 of \x27" ++ name ++ "\x27 objects>"))) written
    return withDoc members
  | none =>
    let inherited ← bases.anyM openInstances
    if inherited then return withDoc written
    else
      let errors ← bases.anyM isException
      let descriptor (n : String) : Run Value :=
        foreignNew "getset_descriptor"
          ("<attribute \x27" ++ n ++ "\x27 of \x27" ++ name ++ "\x27 objects>")
      let members ← if errors then pure written
        else do pure (written.set "__dict__" (← descriptor "__dict__"))
      return withDoc (members.set "__weakref__" (← descriptor "__weakref__"))
where
  withDoc (t : Names) : Names := if t.contains "__doc__" then t else t.set "__doc__" .none

/-- The name under which a program keeps its annotations. -/
def hintTable : String := "__annotations__"

/-- Makes a class: its body runs in a frame of its own. -/
def makeClass (frame : Frame) (first last : Nat) (name : String) (arguments : List Argument)
    (body : List Stmt) : Run Value := do
  let (bases, _) ← evalArguments engine frame (.native "__build_class__") arguments [] []
  for b in bases do
    if !(← isClass b) then typeError "bases must be classes"
  let bases := if bases.isEmpty then [.type "object"] else bases
  let order ← orderOf bases
  if order.any fun c => (builtinName? c).any (kindModule · == signalModule) then
    unsupported "classes based on signals"
  let moduleName := ((← namesAt frame.globals).get? "__name__").getD .none
  let qualifiedName := frame.path ++ name
  let cls : Class := {
    name := name
    qualifiedName := qualifiedName
    bases := bases
    order := order
    members := {}
    file := frame.file
    firstLine := first
    lastLine := last }
  let address ← alloc (.cls cls)
  let start := Names.ofList [("__module__", moduleName), ("__qualname__", .str qualifiedName)]
  let start ← if body.any (Binding.annotates Check.deepest)
    then do pure (start.set hintTable (← newDict [])) else pure start
  let start := match docOf body with
    | .none => start
    | doc => start.set "__doc__" doc
  let locals ← alloc (.names start none)
  let inner : Frame := { frame with
    locals := locals
    enclosing := if frame.isFunction then frame.locals :: frame.enclosing else frame.enclosing
    isFunction := false
    bound := []
    declared := Binding.globalsOf body
    path := qualifiedName ++ "."
    owner := some address }
  discard (entering inner (engine.exec inner body))
  put address (.cls { cls with members := ← membersOf engine name bases (← namesAt locals) })
  return .ref address

/-- Applies decorators, the nearest first. -/
def decorate (decorators : List Value) (v : Value) : Run Value :=
  decorators.foldrM (fun d w => engine.call d [w] []) v

/-! ## Exceptions -/

/-- The exception object that is raised for a value: an exception, or a class of them. -/
def raisedObject (v : Value) : Run Nat := do
  let wrong : Run Nat := typeError "exceptions must derive from BaseException"
  if ← isClass v then
    if ← isException v then
      match ← engine.call v [] [] with
      | .ref a => return a
      | _ => wrong
    else wrong
  else
    match v with
    | .ref a =>
      match ← object a with
      | .error _ => return a
      | _ => wrong
    | _ => wrong

/-- Whether an exception is of a class, or of one of a tuple of classes. -/
def handles (kind : Value) (exception : Nat) : Run Bool := do
  let c ← exceptionClass exception
  let one (k : Value) : Run Bool := do
    if ← isClass k then
      if ← isException k then subclassOf c k else complain
    else complain
  match kind with
  | .tuple ks => ks.anyM one
  | k => one k
where
  complain : Run Bool :=
    typeError "catching classes that do not inherit from BaseException is not allowed"

/-- Runs a handler with its exception at hand. -/
def handling (exception : Nat) (p : Run Flow) : Run Flow := do
  modify fun m => { m with handling := exception :: m.handling }
  let r ← catching p fun e => do
    modify fun m => { m with handling := m.handling.drop 1 }
    throw (.raised e)
  modify fun m => { m with handling := m.handling.drop 1 }
  return r

def runHandlers (frame : Frame) (exception : Nat) : List Handler → Run Flow
  | [] => throw (.raised exception)
  | .mk line kind name body :: rest => do
    atLine line
    let suits ← match kind with
      | none => pure true
      | some k => do handles (← engine.eval frame k) exception
    if !suits then runHandlers frame exception rest
    else
      match name with
      | none => handling exception (engine.exec frame body)
      | some n =>
        writeName frame n (.ref exception)
        let clear : Run Unit := do
          let t ← tableOf frame n
          eraseName t n
        let flow ← handling exception (catching (engine.exec frame body) fun e => do
          clear
          throw (.raised e))
        clear
        return flow

/-- Runs a block, its handlers, and what comes last in every case. -/
def runGuard (frame : Frame) (grouped : Bool) (body : List Stmt) (handlers : List Handler)
    (otherwise final : List Stmt) : Run Flow := do
  let finally_ (outcome : Except Nat Flow) : Run Flow := do
    match ← engine.exec frame final with
    | .next =>
      match outcome with
      | .ok flow => return flow
      | .error e => throw (.raised e)
    | flow => return flow
  let outcome ← catching (do return Except.ok (← engine.exec frame body)) fun e =>
    return Except.error e
  let whole : Run Flow := match outcome with
    | .ok .next => engine.exec frame otherwise
    | .ok flow => return flow
    | .error e =>
      if grouped then unsupported "exception groups" else runHandlers engine frame e handlers
  let result ← catching (do return Except.ok (← whole)) fun e => return Except.error e
  finally_ result

/-! ## Loops -/

def eachItem (frame : Frame) (target : Expr) (body : List Stmt) : List Value → Run (Option Flow)
  | [] => return none
  | v :: vs => do
    assign engine Check.deepest frame target v
    match ← engine.exec frame body with
    | .next | .again => eachItem frame target body vs
    | .stop => return some .next
    | flow => return some flow

def whileTrue (frame : Frame) (test : Expr) (body : List Stmt) : Nat → Run (Option Flow)
  | 0 => throw .outOfFuel
  | fuel + 1 => do
    if ← truth engine (← engine.eval frame test) then
      match ← engine.exec frame body with
      | .next | .again => whileTrue frame test body fuel
      | .stop => return some .next
      | flow => return some flow
    else return none

/-! ## Modules and contexts -/

def moduleNamed (path : String) : Run Value := do
  match (← get).modules.lookup path with
  | some a => return .ref a
  | none =>
    throwValue (.type "ModuleNotFoundError") [.str ("No module named " ++ quoteText path)]
      (Names.ofList [("name", .str path)])

def runContexts (frame : Frame) (line : Nat) (body : List Stmt) :
    List (Expr × Option Expr) → Run Flow
  | [] => engine.exec frame body
  | (e, target) :: rest => do
    let manager ← engine.eval frame e
    atLine line
    match ← special? manager "__enter__", ← special? manager "__exit__" with
    | some enter, some leave =>
      let v ← engine.call enter [manager] []
      match target with
      | some t => assign engine Check.deepest frame t v
      | none => pure ()
      let outcome ← catching
        (do return Except.ok (← runContexts frame line body rest)) fun x => return Except.error x
      match outcome with
      | .ok flow =>
        let _ ← engine.call leave [manager, .none, .none, .none] []
        return flow
      | .error x =>
        let r ← engine.call leave [manager, ← exceptionClass x, .ref x, .none] []
        if ← truth engine r then return .next else throw (.raised x)
    | _, _ =>
      typeError (quoteText (← typeName manager) ++
        " object does not support the context manager protocol")

/-! ## Statements -/

def augment (frame : Frame) (line : Nat) (target : Expr) (op : BinaryOp) (value : Expr) :
    Run Unit := do
  match target with
  | .name l n =>
    atLine l
    let old ← readName engine frame n
    let v ← engine.eval frame value
    atLine line
    writeName frame n (← augmented engine op old v)
  | .attribute _ owner n l =>
    let o ← engine.eval frame owner
    atLine l
    let old ← engine.getAttr o n
    let v ← engine.eval frame value
    atLine line
    setAttr engine o n (← augmented engine op old v)
  | .index l owner sub =>
    let o ← engine.eval frame owner
    let i ← engine.eval frame sub
    atLine l
    let old ← getItem engine o i
    let v ← engine.eval frame value
    atLine line
    setItem engine o i (← augmented engine op old v)
  | _ => return

def deleteTarget : Nat → Frame → Expr → Run Unit
  | 0, _, _ => throw .outOfFuel
  | fuel + 1, frame, target => do
    match target with
    | .name line n =>
      atLine line
      deleteName frame n
    | .attribute _ owner n line =>
      let o ← engine.eval frame owner
      atLine line
      deleteAttr o n
    | .index line owner sub =>
      let o ← engine.eval frame owner
      let i ← engine.eval frame sub
      atLine line
      deleteItem engine o i
    | .tuple _ ts | .list _ ts => for t in ts do deleteTarget fuel frame t
    | _ => return

/-- An annotation without a value evaluates what its target is a part of. -/
def touch (frame : Frame) : Expr → Run Unit
  | .attribute _ owner _ _ => discard (engine.eval frame owner)
  | .index _ owner sub => do
    discard (engine.eval frame owner)
    discard (engine.eval frame sub)
  | _ => return

/-- Keeps the annotation of a bare name; functions keep none. -/
def noteHint (frame : Frame) (line : Nat) (bare : Bool) (target hint : Expr) : Run Unit := do
  match target, bare && !frame.isFunction with
  | .name _ n, true =>
    atLine line
    setItem engine (← readName engine frame hintTable) (.str n) (.str (written hint))
  | _, _ => return

def evalDecorators (frame : Frame) (decorators : List Expr) : Run (List Value) :=
  decorators.mapM (engine.eval frame)

def firstLineOf (line : Nat) (decorators : List Expr) : Nat :=
  (decorators.map Expr.line).foldl min line

/-- Only functions that are suspended wait for loops and contexts. -/
def refuseAsync (line : Nat) (async : Bool) : Run Unit :=
  if async then do
    atLine line
    unsupported "suspended functions"
  else return

/-- Runs one statement. -/
def execStmt (frame : Frame) (s : Stmt) : Run Flow := do
  let done (p : Run Unit) : Run Flow := do
    p
    return .next
  match s with
  | .expr _ e => do
    atLine e.line
    let _ ← engine.eval frame e
    return .next
  | .assign _ targets value => done do
    let v ← engine.eval frame value
    for t in targets do assign engine Check.deepest frame t v
  | .augmented line target op value => done (augment engine frame line target op value)
  | .annotated line bare target hint value => done do
    match value with
    | some e => assign engine Check.deepest frame target (← engine.eval frame e)
    | none => touch engine frame target
    noteHint engine frame line bare target hint
  | .delete _ targets => done do
    for t in targets do deleteTarget engine Check.deepest frame t
  | .pass _ | .globals .. | .nonlocals .. => return .next
  | .ret line e => do
    match e with
    | some e =>
      let v ← engine.eval frame e
      return .ret v
    | none =>
      atLine line
      return .ret .none
  | .raise line e cause => do
    match e with
    | none =>
      atLine line
      match (← get).handling with
      | x :: _ => throw (.raised x)
      | [] => raise "RuntimeError" "No active exception to reraise"
    | some e =>
      let v ← engine.eval frame e
      let c ← cause.mapM (engine.eval frame)
      atLine line
      let x ← raisedObject engine v
      match c with
      | none => pure ()
      | some .none => setAttr engine (.ref x) "__suppress_context__" (.bool true)
      | some c =>
        let y ← catchingOnly "TypeError" (raisedObject engine c) fun _ =>
          typeError "exception causes must derive from BaseException"
        setAttr engine (.ref x) "__cause__" (.ref y)
      throw (.raised x)
  | .assert line test message => do
    let v ← engine.eval frame test
    if ← truth engine v then return .next
    else
      let args ← message.toList.mapM (engine.eval frame)
      atLine line
      throwValue (.type "AssertionError") args {}
  | .stop _ => return .stop
  | .next _ => return .again
  | .load line modules => done do
    atLine line
    for (path, n) in modules do
      let m ← moduleNamed path
      writeName frame n (← if n == (path.splitOn ".").headD path then moduleNamed n else pure m)
  | .take line path names => done do
    atLine line
    let m ← moduleNamed path
    for (n, bound) in names do
      match ← getAttr? engine m n with
      | some v => writeName frame bound v
      | none =>
        raise "ImportError" ("cannot import name " ++ quoteText n ++ " from " ++ quoteText path)
  | .choose _ test yes no => do
    if ← truth engine (← engine.eval frame test) then engine.exec frame yes
    else engine.exec frame no
  | .each line async target source body final => do
    refuseAsync line async
    let v ← engine.eval frame source
    atLine source.line
    match ← eachItem engine frame target body (← engine.elements v) with
    | some flow => return flow
    | none => engine.exec frame final
  | .loop _ test body final => do
    match ← whileTrue engine frame test body mostElements with
    | some flow => return flow
    | none => engine.exec frame final
  | .guard _ grouped body handlers otherwise final =>
    runGuard engine frame grouped body handlers otherwise final
  | .using line async contexts body => do
    refuseAsync line async
    runContexts engine frame line body contexts
  | .select _ subject cases => do runCases engine frame (← engine.eval frame subject) cases
  | .function line last async name params result body decorators => done do
    let ds ← evalDecorators engine frame decorators
    let f ← makeFunction engine frame name (firstLineOf line decorators) last async params result
      body
    writeName frame name (← decorate engine ds f)
  | .cls line last name arguments body decorators => done do
    let ds ← evalDecorators engine frame decorators
    atLine line
    let c ← makeClass engine frame (firstLineOf line decorators) last name arguments body
    writeName frame name (← decorate engine ds c)

/-- Runs statements until one leaves the list. -/
def execAll (frame : Frame) : List Stmt → Run Flow
  | [] => return .next
  | s :: rest => do
    match ← inPlace (execStmt engine frame s) with
    | .next => execAll frame rest
    | flow => return flow

end NestShell.Code.Run

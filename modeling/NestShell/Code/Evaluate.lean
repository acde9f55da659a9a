import NestShell.Code.Binding
import NestShell.Code.Builtin
/-!
The values of expressions. Names are looked up in the variables of the frame, in those of the
functions around it or the attributes of the receiver, among the global variables, and among the
built-in names.
-/
namespace NestShell.Code.Run

variable (engine : Engine)

/-! ## Names -/

def undefinedName {α : Type} (n : String) : Run α := do
  throwValue (.type "NameError") [.str ("name " ++ quoteStart 200 n ++ " is not defined")]
    (Names.ofList [("name", .str n)])

/-- The value of a name in the first of some tables that has it. -/
def firstBound? (n : String) : List Nat → Run (Option Value)
  | [] => return none
  | t :: ts => do
    match (← namesAt t).get? n with
    | some v => return some v
    | none => firstBound? n ts

def globalName (frame : Frame) (n : String) : Run Value := do
  match (← namesAt frame.globals).get? n with
  | some v => return v
  | none =>
    match builtinValue? n with
    | some v => return v
    | none => undefinedName n

/-- A name among variables, or else an attribute of the receiver that stands behind them. -/
def localName? (a : Nat) (n : String) : Run (Option Value) := do
  match ← object a with
  | .names t receiver =>
    match t.get? n, receiver with
    | some v, _ => return some v
    | none, some r => getAttr? engine r n
    | none, none => return none
  | _ => return none

def readName (frame : Frame) (n : String) : Run Value := do
  if frame.isFunction && frame.bound.contains n then
    match (← namesAt frame.locals).get? n with
    | some v => return v
    | none =>
      raise "UnboundLocalError" ("cannot access local variable " ++ quoteText n ++
        " where it is not associated with a value")
  else if frame.declared.contains n then globalName frame n
  else
    let near ← if frame.isFunction then pure none else localName? engine frame.locals n
    match near with
    | some v => return v
    | none =>
      match ← firstBound? n frame.enclosing with
      | some v => return v
      | none => globalName frame n

/-- The table in which a frame keeps a name that it binds. -/
def tableOf (frame : Frame) (n : String) : Run Nat := do
  if frame.isFunction && frame.bound.contains n then return frame.locals
  else if frame.declared.contains n then return frame.globals
  else if !frame.isFunction then return frame.locals
  else
    match ← frame.enclosing.findM? fun t => do return (← namesAt t).contains n with
    | some t => return t
    | none => return frame.globals

def writeName (frame : Frame) (n : String) (v : Value) : Run Unit := do
  setName (← tableOf frame n) n v

def deleteName (frame : Frame) (n : String) : Run Unit := do
  let t ← tableOf frame n
  if (← namesAt t).contains n then eraseName t n
  else if frame.isFunction && frame.bound.contains n then
    raise "UnboundLocalError" ("cannot access local variable " ++ quoteText n ++
      " where it is not associated with a value")
  else undefinedName n

/-! ## Targets -/

def cannotUnpack (v : Value) : Run (List Value) := do
  match v with
  | .ref a =>
    match ← object a with
    | .record c _ =>
      if (← definedIn? "__iter__" (← order c)).isSome then engine.elements v else complain
    | .function _ | .cls _ | .module .. | .error _ | .property .. | .foreign .. | .slice .. =>
      complain
    | _ => engine.elements v
  | .str _ | .bytes _ | .tuple _ | .view .. => engine.elements v
  | _ => complain
where
  complain : Run (List Value) := do
    typeError ("cannot unpack non-iterable " ++ (← typeName v) ++ " object")

/-- The values that the parts of a target take from the elements of a value. -/
def spread (targets : List Expr) (v : Value) : Run (List Value) := do
  let items ← cannotUnpack engine v
  let n := targets.length
  match targets.findIdx? fun t => t matches .star .. with
  | none =>
    if items.length > n then
      valueError ("too many values to unpack (expected " ++ toString n ++ ")")
    else if items.length < n then
      valueError ("not enough values to unpack (expected " ++ toString n ++ ", got " ++
        toString items.length ++ ")")
    else return items
  | some i =>
    if items.length < n - 1 then
      valueError ("not enough values to unpack (expected at least " ++ toString (n - 1) ++
        ", got " ++ toString items.length ++ ")")
    else
      let after := n - 1 - i
      let middle ← newList ((items.drop i).take (items.length - i - after))
      return items.take i ++ [middle] ++ items.drop (items.length - after)

/-- Stores a value in a target. -/
def assign : Nat → Frame → Expr → Value → Run Unit
  | 0, _, _, _ => throw .outOfFuel
  | fuel + 1, frame, target, v => do
    match target with
    | .name line n =>
      atLine line
      writeName frame n v
    | .attribute _ owner n line =>
      let o ← engine.eval frame owner
      atLine line
      setAttr engine o n v
    | .index line owner sub =>
      let o ← engine.eval frame owner
      let i ← engine.eval frame sub
      atLine line
      setItem engine o i v
    | .tuple line targets | .list line targets =>
      atLine line
      let vs ← spread engine targets v
      for (t, w) in targets.zip vs do assign fuel frame t w
    | .star _ t => assign fuel frame t v
    | _ => return

/-! ## Parts of expressions -/

/-- The values of items, of which a starred one stands for its elements. -/
def evalItems (frame : Frame) (items : List Expr) : Run (List Value) := do
  let parts ← items.mapM fun e => do
    match e with
    | .star line inner =>
      let v ← engine.eval frame inner
      atLine line
      catchingOnly "TypeError" (engine.elements v) fun _ => do
        typeError ("Value after * must be an iterable, not " ++ (← typeName v))
    | e => return [← engine.eval frame e]
  return parts.flatten

/-- The entries of a mapping, or nothing where a value is none. -/
def mappingEntries? (v : Value) : Run (Option (List (Value × Value))) := do
  match v with
  | .ref a =>
    match ← object a with
    | .dict es => return some es
    | .names t _ => return some (t.entries.map fun (n, w) => (.str n, w))
    | _ => return none
  | _ => return none

def evalEntries (frame : Frame) : List Entry → List (Value × Value) → Run (List (Value × Value))
  | [], acc => return acc
  | .pair key value :: rest, acc => do
    let k ← engine.eval frame key
    let v ← engine.eval frame value
    checkKey k
    evalEntries frame rest (setKey k v acc)
  | .spread e :: rest, acc => do
    let v ← engine.eval frame e
    match ← mappingEntries? v with
    | some es => evalEntries frame rest (es.foldl (fun acc (k, w) => setKey k w acc) acc)
    | none => typeError (quoteText (← typeName v) ++ " object is not a mapping")

/-- A formatted text; the fuel counts formats inside formats. -/
def evalPieces (frame : Frame) : Nat → List Piece → Run String
  | 0, _ => throw .outOfFuel
  | fuel + 1, pieces => do
    let parts ← pieces.mapM fun p => do
      match p with
      | .text s => return s
      | .value e conversion spec =>
        let v ← engine.eval frame e
        let v ← match conversion with
          | some 'r' => do pure (Value.str (← engine.shown v))
          | some 'a' => do pure (Value.str (escaped (← engine.shown v)))
          | some 's' => do pure (Value.str (← engine.text v))
          | _ => pure v
        format engine v (← evalPieces frame fuel spec)
    return String.join parts

/-- How complaints about arguments call a function. -/
def callTitle (f : Value) : Run String := do
  match f with
  | .ref a =>
    match ← object a with
    | .function g =>
      match g.moduleName with
      | .str m => return m ++ "." ++ g.qualifiedName ++ "()"
      | _ => return g.qualifiedName ++ "()"
    | .cls _ => return (← classPath f) ++ "()"
    | _ => return (← typeName f) ++ " object"
  | .bound _ g => do
    match g with
    | .ref a =>
      match ← object a with
      | .function h =>
        match h.moduleName with
        | .str m => return m ++ "." ++ h.qualifiedName ++ "()"
        | _ => return h.qualifiedName ++ "()"
      | _ => return "method object"
    | _ => return "method object"
  | .type n | .native n => return n ++ "()"
  | .method r n => return (← typeName r) ++ "." ++ n ++ "()"
  | .slot c n => return c ++ "." ++ n ++ "()"
  | v => return (← typeName v) ++ " object"

/-- The positions and names that the arguments of a call write. -/
def evalArguments (frame : Frame) (f : Value) : List Argument → List Value →
    List (String × Value) → Run (List Value × List (String × Value))
  | [], args, keywords => return (args, keywords)
  | a :: rest, args, keywords => do
    match a with
    | .plain e =>
      let v ← engine.eval frame e
      evalArguments frame f rest (args ++ [v]) keywords
    | .keyword _ n e =>
      let v ← engine.eval frame e
      if (keywords.lookup n).isSome then repeated n
      else evalArguments frame f rest args (keywords ++ [(n, v)])
    | .star e =>
      let v ← engine.eval frame e
      let vs ← catchingOnly "TypeError" (engine.elements v) fun _ => do
        typeError ((← callTitle f) ++ " argument after * must be an iterable, not " ++
          (← typeName v))
      evalArguments frame f rest (args ++ vs) keywords
    | .doubleStar e =>
      let v ← engine.eval frame e
      match ← mappingEntries? v with
      | none =>
        typeError ((← callTitle f) ++ " argument after ** must be a mapping, not " ++
          (← typeName v))
      | some es =>
        let more ← es.mapM fun (k, w) => do
          match k with
          | .str n => return (n, w)
          | _ => typeError "keywords must be strings"
        match more.find? fun (n, _) => (keywords.lookup n).isSome with
        | some (n, _) => repeated n
        | none => evalArguments frame f rest args (keywords ++ more)
where
  repeated (n : String) : Run (List Value × List (String × Value)) := do
    typeError ((← callTitle f) ++ " got multiple values for keyword argument " ++ quoteText n)

/-- Built-in functions that look at the variables of their caller. -/
def frameCall? (frame : Frame) (f : Value) : Run (Option Value) := do
  match f with
  | .native "locals" | .native "vars" =>
    if frame.isFunction then return some (← dictOf (← namesAt frame.locals))
    else return some (.ref frame.locals)
  | .native "globals" => return some (.ref frame.globals)
  | .native "dir" =>
    return some (← newList ((sortNames (← namesAt frame.locals).keys).map .str))
  | .type "super" =>
    match frame.owner, (frame.bound.head?) with
    | some c, some n =>
      match (← namesAt frame.locals).get? n with
      | some self => return some (← new (.parent (.ref c) self))
      | none => raise "RuntimeError" "super(): arg[0] deleted"
    | _, _ => raise "RuntimeError" "super(): no arguments"
  | _ => return none

def evalCall (frame : Frame) (line : Nat) (func : Expr) (arguments : List Argument) :
    Run Value := do
  let f ← engine.eval frame func
  let (args, keywords) ← evalArguments engine frame f arguments [] []
  let callLine := match func with
    | .attribute _ _ _ l => l
    | _ => line
  atLine callLine
  match args, keywords with
  | [], [] =>
    match ← frameCall? frame f with
    | some v => return v
    | none => engine.call f [] []
  | _, _ => engine.call f args keywords

def evalEvery (frame : Frame) : List Expr → Run Value
  | [] => return .bool true
  | [e] => engine.eval frame e
  | e :: es => do
    let v ← engine.eval frame e
    if ← truth engine v then evalEvery frame es else return v

def evalEither (frame : Frame) : List Expr → Run Value
  | [] => return .bool false
  | [e] => engine.eval frame e
  | e :: es => do
    let v ← engine.eval frame e
    if ← truth engine v then return v else evalEither frame es

/-- A chain of comparisons stops at the first that fails. -/
def evalChain (frame : Frame) (line : Nat) (v : Value) : List Comparison → Run Value
  | [] => return v
  | [.mk op e] => do
    let w ← engine.eval frame e
    atLine line
    compare engine op v w
  | .mk op e :: rest => do
    let w ← engine.eval frame e
    atLine line
    let r ← compare engine op v w
    if ← truth engine r then evalChain frame line w rest else return r

/-! ## Functions -/

def docOf : List Stmt → Value
  | .expr _ (.const _ (.str s)) :: _ => .str s
  | _ => .none

/-- The texts of the annotations of a function. -/
def hintTexts (params : List Param) (result : Option Expr) : List (String × String) :=
  let ofKind (kind : ParamKind) := (params.filter (·.kind == kind)).filterMap fun p =>
    p.hint.map fun e => (p.name, written e)
  ofKind .regular ++ ofKind .positional ++ ofKind .rest ++ ofKind .keyword ++
    ofKind .keywordRest ++ result.toList.map fun e => ("return", written e)

/-- A function made where a definition or a lambda stands. -/
def makeFunction (frame : Frame) (name : String) (first last : Nat) (async : Bool)
    (params : List Param) (result : Option Expr) (body : List Stmt) : Run Value := do
  let defaults ← params.filterMapM fun p => do
    match p.default with
    | some e => return some (p.name, ← engine.eval frame e)
    | none => return none
  let moduleName := ((← namesAt frame.globals).get? "__name__").getD .none
  new (.function {
    name := name
    qualifiedName := frame.path ++ name
    moduleName := moduleName
    file := frame.file
    firstLine := first
    lastLine := last
    doc := docOf body
    params := params.map fun p => (p.kind, p.name)
    defaults := defaults
    hints := hintTexts params result
    body := body
    suspends := async || Check.bodyYields body
    globals := frame.globals
    closure := if frame.isFunction then frame.locals :: frame.enclosing else frame.enclosing
    locals := Binding.ofFunction (params.map Param.name) body
    declared := Binding.globalsOf body
    owner := frame.owner
    attrs := {} })

/-- The file whose lines exceptions remember. -/
def markedFile (file : String) : Option String := if file == "(burrow)" then some file else none

def deepestCall : Nat := 400

/-- Runs code in a frame of its own. -/
def entering {α : Type} (frame : Frame) (p : Run α) : Run α := do
  if (← get).depth ≥ deepestCall then
    raise "RecursionError" "maximum recursion depth exceeded"
  inFrame (markedFile frame.file) p

def callFunction (f : Function) (args : List Value) (keywords : List (String × Value)) :
    Run Value := do
  let bound ← bindArguments f args keywords
  if f.suspends then unsupported "suspended functions"
  let locals ← alloc (.names bound none)
  let frame : Frame := {
    globals := f.globals
    locals := locals
    enclosing := f.closure
    isFunction := true
    bound := f.locals
    declared := f.declared
    file := f.file
    path := f.qualifiedName ++ ".<locals>."
    owner := f.owner }
  entering frame do
    match ← engine.exec frame f.body with
    | .ret v => return v
    | _ => return .none

/-! ## Comprehensions -/

/-- Runs the clauses of a comprehension; `emit` is run for every choice of elements. -/
def runClauses (frame : Frame) (emit : Run Unit) : List Clause → List Value → Run Unit
  | [], _ => emit
  | .mk _ target _ conditions :: rest, items => do
    for v in items do
      assign engine Check.deepest frame target v
      let wanted ← conditions.allM fun c => do truth engine (← engine.eval frame c)
      if wanted then
        match rest with
        | [] => emit
        | .mk _ _ source _ :: _ => do
          runClauses frame emit rest (← engine.elements (← engine.eval frame source))

def evalGather (outer : Frame) (line : Nat) (kind : Collection) (key value : Expr)
    (clauses : List Clause) : Run Value := do
  let source ← match clauses with
    | .mk _ _ s _ :: _ => engine.eval outer s
    | [] => return .none
  atLine line
  let items ← engine.elements source
  let locals ← alloc (.names {} none)
  let targets := clauses.flatMap fun
    | .mk _ t _ _ => Binding.inTarget Check.deepest t
  let frame : Frame := { outer with
    locals := locals
    enclosing := if outer.isFunction then outer.locals :: outer.enclosing else outer.enclosing
    isFunction := true
    bound := targets
    declared := if outer.isFunction then outer.declared else []
    path := outer.path ++ "<" ++ collectionName kind ++ ">.<locals>." }
  let result ← alloc (.list #[])
  entering frame do
    let emit : Run Unit := do
      let entry ← match kind with
        | .dict => do
          let k ← engine.eval frame key
          pure (Value.tuple [k, ← engine.eval frame value])
        | _ => engine.eval frame value
      match ← object result with
      | .list vs => put result (.list (vs.push entry))
      | _ => return
    runClauses engine frame emit clauses items
  let vs ← elements engine (.ref result)
  match kind with
  | .list => return .ref result
  | .generator => new (.iterator "generator" vs)
  | .set =>
    for v in vs do checkKey v
    new (.set (distinct vs) false)
  | .dict =>
    let es := vs.filterMap fun
      | .tuple [k, v] => some (k, v)
      | _ => none
    newDict (← mergeEntries [] es)
where
  collectionName : Collection → String
    | .list => "listcomp"
    | .set => "setcomp"
    | .dict => "dictcomp"
    | .generator => "genexpr"

/-! ## Expressions -/

/-- The value of an expression. -/
def evalExpr (frame : Frame) (e : Expr) : Run Value := do
  match e with
  | .const _ v => return v
  | .name line n =>
    atLine line
    readName engine frame n
  | .formatted line pieces =>
    atLine line
    return .str (← evalPieces engine frame Check.deepest pieces)
  | .tuple _ items => return .tuple (← evalItems engine frame items)
  | .list _ items => newList (← evalItems engine frame items)
  | .set line items =>
    let vs ← evalItems engine frame items
    atLine line
    for v in vs do checkKey v
    new (.set (distinct vs) false)
  | .dict _ entries => newDict (← evalEntries engine frame entries [])
  | .unary line op operand =>
    let v ← engine.eval frame operand
    atLine line
    unary engine op v
  | .binary line op left right =>
    let v ← engine.eval frame left
    let w ← engine.eval frame right
    atLine line
    binary engine op v w
  | .every _ items => evalEvery engine frame items
  | .either _ items => evalEither engine frame items
  | .compare line first rest => evalChain engine frame line (← engine.eval frame first) rest
  | .choose _ test yes no =>
    if ← truth engine (← engine.eval frame test) then engine.eval frame yes
    else engine.eval frame no
  | .lambda line params body =>
    makeFunction engine frame "<lambda>" line line false params none
      [.ret body.line (some body)]
  | .attribute _ owner n line =>
    let v ← engine.eval frame owner
    atLine line
    engine.getAttr v n
  | .index line owner sub =>
    let v ← engine.eval frame owner
    let i ← engine.eval frame sub
    atLine line
    getItem engine v i
  | .slice _ low high step =>
    let part (e? : Option Expr) : Run Value := do
      match e? with
      | some e => engine.eval frame e
      | none => return .none
    let lo ← part low
    let hi ← part high
    new (.slice lo hi (← part step))
  | .call line func arguments => evalCall engine frame line func arguments
  | .star _ operand => engine.eval frame operand
  | .naming _ n value =>
    let v ← engine.eval frame value
    writeName frame n v
    return v
  | .gather line kind key value clauses => evalGather engine frame line kind key value clauses
  | .yield line _ _ | .await line _ =>
    atLine line
    unsupported "suspended functions"

end NestShell.Code.Run

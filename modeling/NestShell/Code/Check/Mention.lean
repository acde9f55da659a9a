import NestShell.Code.Check.Parts
import NestShell.Code.Complaint
/-!
What a program says about names, in the order of its text. Each block, that is the program itself,
a function, a class or a comprehension, has names of its own; the mentions of a block tell whether
its names are used as they are declared.
-/
namespace NestShell.Code.Check

abbrev Verdict := Except SyntaxFault Unit

def fault (line : Nat) (c : Complaint) : Verdict := .error ⟨c, line⟩

/-- Refuses a program for a fault, if there is one. -/
def refuseFor : Option SyntaxFault → Verdict
  | some f => .error f
  | none => .ok ()

/-- The name that tells whether assertions are checked. No program may bind it. -/
def debugName : String := "__debug__"

/-- Whose names are meant. -/
inductive Block where
  | program
  | function
  | cls
  | hint
  | gathering (what : String)

/-- What an expression says about a name. -/
inductive Mention where
  | reads (line : Nat) (name : String)
  | binds (line : Nat) (name : String)
  /-- An expression in a comprehension gives a name to its value. -/
  | names (line : Nat) (name : String)
  /-- A comprehension binds the name for the code around it. -/
  | gathers (line : Nat) (name : String)
  /-- A block inside declares the name global. -/
  | exports (name : String)
  | refused (f : SyntaxFault)

/-- Whether a declaration makes names global, or leaves them to the functions around. -/
inductive Outside where
  | global
  | nonlocal
  deriving DecidableEq

def Outside.word : Outside → String
  | .global => "global"
  | .nonlocal => "nonlocal"

/-- What a statement says about a name. -/
inductive Remark where
  | mention (m : Mention)
  | loads (name : String)
  | loadsAll (line : Nat)
  | parameter (line : Nat) (name : String)
  | annotates (line : Nat) (name : String)
  | declares (line : Nat) (kind : Outside) (name : String)

/-! ## Comprehensions -/

/-- What is said in a comprehension, and whether it is said of the target of a loop. -/
abbrev Inner := List (Bool × Mention)

def Inner.names (earlier : Inner) (n : String) : Bool :=
  earlier.any fun (_, m) => match m with
    | .names _ k => k == n
    | _ => false

/-- Whether the target of a loop of the comprehension mentions a name. -/
def Inner.loopsOver (earlier : Inner) (n : String) : Bool :=
  earlier.any fun (target, m) => target && match m with
    | .reads _ k | .binds _ k => k == n
    | _ => false

/-- What a comprehension says to the code around it. No name is both a variable of its loops and
given to a value in it. -/
def outward (earlier : Inner) : Inner → List Mention
  | [] => []
  | (target, m) :: rest =>
    match m with
    | .reads line n | .binds line n =>
      if target && earlier.names n then [.refused ⟨.loopRebinds n, line⟩]
      else outward ((target, m) :: earlier) rest
    | .names line n =>
      if earlier.loopsOver n then [.refused ⟨.namingRebinds n, line⟩]
      else if target then [.refused ⟨.loopRebinds n, line⟩]
      else .gathers line n :: outward ((target, m) :: earlier) rest
    | .gathers line n =>
      if earlier.loopsOver n then [.refused ⟨.namingRebinds n, line⟩]
      else .gathers line n :: outward earlier rest
    | .exports n => .exports n :: outward earlier rest
    | .refused f => [.refused f]

/-! ## Blocks -/

def anySaid (earlier : List Remark) (p : Mention → Bool) : Bool :=
  earlier.any fun r => match r with
    | .mention m => p m
    | _ => false

def isRead (earlier : List Remark) (n : String) : Bool :=
  anySaid earlier fun m => match m with
    | .reads _ k => k == n
    | _ => false

def isParameter (earlier : List Remark) (n : String) : Bool :=
  earlier.any fun r => match r with
    | .parameter _ k => k == n
    | _ => false

def isAnnotated (earlier : List Remark) (n : String) : Bool :=
  earlier.any fun r => match r with
    | .annotates _ k => k == n
    | _ => false

def isDeclared (earlier : List Remark) (kind : Outside) (n : String) : Bool :=
  earlier.any fun r => match r with
    | .declares _ k m => k == kind && m == n
    | _ => false

/-- Whether a name is bound by the text of a block itself. What a comprehension of a program binds
is global from the start. -/
def isBound (block : Block) (earlier : List Remark) (n : String) : Bool :=
  anySaid earlier fun m => match m with
    | .binds _ k => k == n
    | .gathers _ k => k == n && !(block matches .program)
    | _ => false

/-- Why nothing may be said that way after what was said before. -/
def mentionFault (block : Block) : Mention → Option SyntaxFault
  | .refused f => some f
  | .gathers line _ => if block matches .cls then some ⟨.namingInClass, line⟩ else none
  | _ => none

def declarationFault (block : Block) (earlier : List Remark) (line : Nat) (kind : Outside)
    (n : String) : Option SyntaxFault :=
  if isParameter earlier n then some ⟨.declaredParameter n kind.word, line⟩
  else if isRead earlier n then some ⟨.declaredAfterUse n kind.word, line⟩
  else if isAnnotated earlier n then some ⟨.declaredAnnotated n kind.word, line⟩
  else if isBound block earlier n then some ⟨.declaredAfterAssignment n kind.word, line⟩
  else none

def remarkFault (block : Block) (earlier : List Remark) : Remark → Option SyntaxFault
  | .mention m => mentionFault block m
  | .loads _ => none
  | .loadsAll line => if block matches .program then none else some ⟨.allInside, line⟩
  | .parameter line n =>
    if isParameter earlier n then some ⟨.duplicateArgument n, line⟩ else none
  | .annotates line n =>
    if block matches .program then none
    else if isDeclared earlier .global n then some ⟨.declaredAnnotated n "global", line⟩
    else if isDeclared earlier .nonlocal n then some ⟨.declaredAnnotated n "nonlocal", line⟩
    else none
  | .declares line kind n => declarationFault block earlier line kind n

/-- The first fault in what is said of the names of a block; the remarks before it come reversed. -/
def firstFault (block : Block) : List Remark → List Remark → Option SyntaxFault
  | _, [] => none
  | earlier, r :: rs =>
    match remarkFault block earlier r with
    | some f => some f
    | none => firstFault block (r :: earlier) rs

/-- What a block of its own says where it stands: the names that it makes global, and why it cannot
stand there. -/
def inBlock (block : Block) (said : List Remark) : List Mention :=
  said.filterMap (fun r => match r with
    | .declares _ .global n | .mention (.exports n) => some (.exports n)
    | _ => none) ++ (firstFault block [] said).toList.map .refused

/-! ## Expressions -/

/-- Where an expression stands: in which block, and whether a comprehension loops over it. -/
structure Around where
  block : Block
  inSource : Bool

def Around.source (around : Around) : Around := { around with inSource := true }

def Around.within (around : Around) (block : Block) : Around := { around with block := block }

/-- The parameters of a function in the order in which their names are taken. -/
def parameterRemarks (ps : List Param) : List Remark :=
  let ofKinds (p : ParamKind → Bool) := (ps.filter fun q => p q.kind).map fun q =>
    Remark.parameter q.line q.name
  ofKinds (fun k => k matches .positional | .regular | .keyword) ++ ofKinds (· == .rest) ++
    ofKinds (· == .keywordRest)

/-- The parts of an expression in the order in which their names are taken. -/
def namedParts : Expr → List Expr
  | .dict _ es =>
    es.filterMap (fun e => match e with
      | .pair k _ => some k
      | .spread _ => none) ++
    es.map (fun e => match e with
      | .pair _ v => v
      | .spread v => v)
  | e => Expr.parts e

/-- What is said in a target, given what expressions say. -/
def targetMentions (ofExpr : Expr → List Mention) : Nat → Expr → List Mention
  | 0, _ => []
  | fuel + 1, e =>
    match e with
    | .name line n => [.binds line n]
    | .tuple _ items | .list _ items => items.flatMap (targetMentions ofExpr fuel)
    | .star _ t => targetMentions ofExpr fuel t
    | e => ofExpr e

/-- What the parts of a comprehension say that are evaluated in it. The source of its first loop is
evaluated outside. -/
def innerMentions (ofExpr : Bool → Expr → List Mention) (ofTarget : Expr → List Mention)
    (gathered : List Expr) (clauses : List Clause) : Inner :=
  let loop (withSource : Bool) (c : Clause) : Inner := match c with
    | .mk _ target source conditions =>
      (ofTarget target).map (true, ·) ++
        ((if withSource then ofExpr true source else []) ++
          conditions.flatMap (ofExpr false)).map (false, ·)
  (clauses.take 1).flatMap (loop false) ++ (clauses.drop 1).flatMap (loop true) ++
    (gathered.flatMap (ofExpr false)).map (false, ·)

def exprMentions : Nat → Around → Expr → List Mention
  | 0, _, _ => []
  | fuel + 1, around, e =>
    let ofParts (e : Expr) := (namedParts e).flatMap (exprMentions fuel around)
    match e with
    | .name line n =>
      -- this name is a constant, and with the classes above a class itself is called upon
      if n == debugName then []
      else if n == "super" && (around.block matches .function | .gathering _) then
        [.reads line n, .reads line "__class__"]
      else [.reads line n]
    | .naming line n _ =>
      match around.block, around.inSource with
      | .hint, _ => [.refused ⟨.withinHint "named expression", line⟩]
      | _, true => [.refused ⟨.namingInSource, line⟩]
      | .gathering _, false => .names line n :: (ofParts e ++ [.binds line n])
      | _, false => ofParts e ++ [.binds line n]
    | .yield line _ _ =>
      match around.block with
      | .hint => [.refused ⟨.withinHint "yield expression", line⟩]
      | .gathering what => ofParts e ++ [.refused ⟨.yieldInside what, line⟩]
      | _ => ofParts e
    | .await line _ =>
      match around.block with
      | .hint => [.refused ⟨.withinHint "await expression", line⟩]
      | _ => ofParts e
    | .lambda _ ps body =>
      ofParts e ++ inBlock .function (parameterRemarks ps ++
        (exprMentions fuel (around.within .function) body).map .mention)
    | .gather _ kind key value clauses =>
      let inside := around.within (.gathering e.description)
      let outer := (clauses.take 1).flatMap fun
        | .mk _ _ source _ => exprMentions fuel around.source source
      outer ++ outward [] (innerMentions
        (fun source => exprMentions fuel (if source then inside.source else inside))
        (targetMentions (exprMentions fuel inside) fuel)
        (gatheredParts kind key value).reverse clauses)
    | _ => ofParts e

/-- What an annotation says to the code around it; its own names are not looked up. -/
def hintMentions (fuel : Nat) (e : Expr) : List Mention :=
  (exprMentions fuel ⟨.hint, false⟩ e).filter (· matches .gathers .. | .exports _ | .refused _)

/-! ## Statements -/

/-- What a shape says of names. -/
def shapeMentions (ofExpr : Expr → List Mention) : Nat → Shape → List Mention
  | 0, _ => []
  | fuel + 1, s =>
    match s with
    | .value _ e => ofExpr e
    | .constant .. => []
    | .rest line n | .any line n => n.toList.map (.binds line)
    | .sequence _ items => items.flatMap (shapeMentions ofExpr fuel)
    | .mapping line keys items rest =>
      keys.flatMap ofExpr ++ items.flatMap (shapeMentions ofExpr fuel) ++
        rest.toList.map (.binds line)
    | .object _ cls positions _ fields =>
      ofExpr cls ++ (positions ++ fields).flatMap (shapeMentions ofExpr fuel)
    | .named line inner n => shapeMentions ofExpr fuel inner ++ [.binds line n]
    | .either _ choices => choices.flatMap (shapeMentions ofExpr fuel)

/-- What the annotations of a function say. -/
def signatureMentions (fuel : Nat) (ps : List Param) (result : Option Expr) : List Mention :=
  let ofKinds (p : ParamKind → Bool) := (ps.filter fun q => p q.kind).filterMap Param.hint
  (ofKinds (fun k => k matches .positional | .regular) ++ ofKinds (· == .rest) ++
    ofKinds (· == .keywordRest) ++ ofKinds (· == .keyword) ++ result.toList).flatMap
      (hintMentions fuel)

def stmtRemarks : Nat → Block → Stmt → List Remark
  | 0, _, _ => []
  | fuel + 1, block, s =>
    let ofExpr (e : Expr) := exprMentions fuel ⟨block, false⟩ e
    let ofTarget (e : Expr) := targetMentions ofExpr fuel e
    let said (ms : List Mention) := ms.map Remark.mention
    let exprs (es : List Expr) := said (es.flatMap ofExpr)
    let targets (es : List Expr) := said (es.flatMap ofTarget)
    let inner (ss : List Stmt) := ss.flatMap (stmtRemarks fuel block)
    match s with
    | .assign _ ts v => targets ts ++ exprs [v]
    | .augmented _ t _ v => targets [t] ++ exprs [v]
    | .annotated line bare t a v =>
      (match t, bare with
      | .name _ n, true => [.annotates line n, .mention (.binds line n)]
      | .name _ n, false => if v.isSome then [.mention (.binds line n)] else []
      | t, _ => exprs [t]) ++ said (hintMentions fuel a) ++ exprs v.toList
    | .delete _ ts => targets ts
    | .globals line ns => ns.map (.declares line .global)
    | .nonlocals line ns => ns.map (.declares line .nonlocal)
    | .load _ modules => modules.map fun (_, n) => .loads n
    | .take line _ names => names.map fun (_, n) => if n == "*" then .loadsAll line else .loads n
    | .choose _ e yes no => exprs [e] ++ inner (yes ++ no)
    | .loop _ e body final => exprs [e] ++ inner (body ++ final)
    | .each _ _ t e body final => targets [t] ++ exprs [e] ++ inner (body ++ final)
    | .guard _ _ body handlers otherwise final =>
      inner (body ++ otherwise) ++
        handlers.flatMap (fun
          | .mk line kind n ss =>
            exprs kind.toList ++ said (n.toList.map (.binds line)) ++ inner ss) ++
        inner final
    | .using _ _ contexts body =>
      contexts.flatMap (fun (e, t) => exprs [e] ++ targets t.toList) ++ inner body
    | .select _ e cases =>
      exprs [e] ++ cases.flatMap fun
        | .mk shape test body =>
          said (shapeMentions ofExpr fuel shape) ++ exprs test.toList ++ inner body
    | .function line _ _ n ps result body ds =>
      said (.binds line n :: (ps.filterMap Param.default).flatMap ofExpr ++
        signatureMentions fuel ps result ++ ds.flatMap ofExpr ++
        inBlock .function (parameterRemarks ps ++ body.flatMap (stmtRemarks fuel .function)))
    | .cls line _ n as body ds =>
      said (.binds line n :: (as.map Argument.value ++ ds).flatMap ofExpr ++
        inBlock .cls (body.flatMap (stmtRemarks fuel .cls)))
    | s => exprs (Stmt.parts s)

/-! ## Names left to the functions around -/

def Remark.name? : Remark → Option String
  | .mention (.reads _ n) | .mention (.binds _ n) | .mention (.names _ n)
  | .mention (.gathers _ n) | .mention (.exports n) => some n
  | .loads n | .parameter _ n | .annotates _ n | .declares _ _ n => some n
  | .mention (.refused _) | .loadsAll _ => none

/-- Whether a name is global for a block. For the program, all that is declared so anywhere is, and
what its comprehensions bind. -/
def isGlobal (block : Block) (said : List Remark) (n : String) : Bool :=
  isDeclared said .global n ||
    (block matches .program) && anySaid said fun m => match m with
      | .gathers _ k | .exports k => k == n
      | _ => false

/-- The line on which a name is first declared. -/
def declaredAt (said : List Remark) (n : String) : Nat :=
  (said.findSome? fun r => match r with
    | .declares line _ m => if m == n then some line else none
    | _ => none).getD 0

/-- What is wrong with a name that a block leaves to the functions around, which bind `outer`. -/
def nonlocalFault (block : Block) (outer : List String) (said : List Remark) (n : String) :
    Option SyntaxFault :=
  if !isDeclared said .nonlocal n then none
  else if isGlobal block said n then some ⟨.nonlocalAndGlobal n, declaredAt said n⟩
  else if block matches .program then some ⟨.nonlocalAtTop, declaredAt said n⟩
  else if outer.contains n then none
  else some ⟨.unboundNonlocal n, declaredAt said n⟩

/-- The first fault in the names that a block leaves to the functions around. -/
def outsideFault (block : Block) (outer : List String) (said : List Remark) : Option SyntaxFault :=
  (said.filterMap Remark.name?).eraseDups.findSome? (nonlocalFault block outer said)

/-- The names that belong to a block. -/
def ownNames (said : List Remark) : List String :=
  (said.filterMap fun r => match r with
    | .mention (.binds _ n) | .mention (.gathers _ n) => some n
    | .loads n | .parameter _ n => some n
    | _ => none).filter fun n => !isDeclared said .global n && !isDeclared said .nonlocal n

/-- The names that functions inside a block may leave to it and to what is around it. -/
def outerNames (block : Block) (outer : List String) (said : List Remark) : List String :=
  match block with
  | .program => []
  | .cls => "__class__" :: outer
  | _ => ownNames said ++ outer.filter fun n => !isDeclared said .global n

/-- The functions and classes that stand in a statement. -/
def definitions : Nat → Stmt → List Stmt
  | 0, _ => []
  | fuel + 1, s =>
    match s with
    | .function .. | .cls .. => [s]
    | s => (Stmt.blocks s).flatMap (definitions fuel)

/-- Checks the names that the functions and classes of a block leave to what is around them. -/
def checkOuter : Nat → List String → Stmt → Verdict
  | 0, _, _ => .ok ()
  | fuel + 1, outer, s =>
    let checkBlock (block : Block) (said : List Remark) (body : List Stmt) : Verdict := do
      refuseFor (outsideFault block outer said)
      (body.flatMap (definitions fuel)).forM (checkOuter fuel (outerNames block outer said))
    match s with
    | .function _ _ _ _ ps _ body _ =>
      checkBlock .function (parameterRemarks ps ++ body.flatMap (stmtRemarks fuel .function)) body
    | .cls _ _ _ _ body _ => checkBlock .cls (body.flatMap (stmtRemarks fuel .cls)) body
    | _ => .ok ()

/-- Checks the names of a program. -/
def checkNames (ss : List Stmt) : Verdict := do
  let said := ss.flatMap (stmtRemarks deepest .program)
  refuseFor (firstFault .program [] said)
  refuseFor (outsideFault .program [] said)
  (ss.flatMap (definitions deepest)).forM (checkOuter deepest [])

end NestShell.Code.Check

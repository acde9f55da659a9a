import NestShell.Code.Check.Shape
/-!
Where the parts of a program may stand: `return`, `yield` and `await` in functions, `break` and
`continue` in loops, stars in lists and tuples.
-/
namespace NestShell.Code.Check

/-- Refuses what is wrong on a line. -/
def refuse (wrong : Bool) (line : Nat) (c : Complaint) : Verdict :=
  if wrong then fault line c else .ok ()

/-- A check made only in some cases. -/
def checkIf (needed : Bool) (v : Verdict) : Verdict := if needed then v else .ok ()

/-! ## Places -/

/-- What kind of code an expression stands in. -/
structure Site where
  inFunction : Bool := false
  async : Bool := false
  /-- The code of a comprehension. -/
  gathers : Bool := false

/-- What a statement stands in within its function, the nearest first. -/
inductive Enclosure where
  | loop
  /-- A handler that takes exceptions out of groups. -/
  | group
  /-- Statements of which the last are run in every case. -/
  | ended (final : List Stmt)
  /-- The body of a `with` statement. -/
  | managed
  | other

/-- Where a statement stands. -/
structure Place extends Site where
  /-- An asynchronous function that yields returns no value. -/
  valueless : Bool := false
  enclosures : List Enclosure := []
  /-- The line of the last statement that turns on a feature to come. -/
  features : Nat := 0

def Place.inLoop (place : Place) : Bool := place.enclosures.any (· matches .loop)

def Place.under (place : Place) (e : Enclosure) : Place :=
  { place with enclosures := e :: place.enclosures }

def mostEnclosures : Nat := 20

/-- The place inside what a line begins. -/
def Place.enter (place : Place) (line : Nat) (e : Enclosure) : Except SyntaxFault Place :=
  if place.enclosures.length ≥ mostEnclosures then .error ⟨.nestedBlocks, line⟩
  else .ok (place.under e)

/-! ## Functions that are suspended -/

/-- Whether an expression waits, or gathers what others wait for, in the code it stands in. -/
def waits : Nat → Expr → Bool
  | 0, _ => false
  | fuel + 1, e =>
    match e with
    | .await .. => true
    | .gather _ kind key value clauses =>
      (clauses.take 1).any (fun | .mk _ _ source _ => waits fuel source) ||
        (kind != .generator && gatheringWaits (waits fuel) kind key value clauses)
    | e => (Expr.parts e).any (waits fuel)
where
  /-- Whether the code of a comprehension waits. -/
  gatheringWaits (waits : Expr → Bool) (kind : Collection) (key value : Expr)
      (clauses : List Clause) : Bool :=
    let inner (withSource : Bool) : Clause → Bool
      | .mk async target source conditions =>
        async || waits target || (withSource && waits source) || conditions.any waits
    (clauses.take 1).any (inner false) || (clauses.drop 1).any (inner true) ||
      (gatheredParts kind key value).any waits

/-- Whether an expression yields in the code it stands in. -/
def yields : Nat → Expr → Bool
  | 0, _ => false
  | fuel + 1, e =>
    match e with
    | .yield .. => true
    | .gather _ _ _ _ clauses =>
      (clauses.take 1).any fun | .mk _ _ source _ => yields fuel source
    | e => (Expr.parts e).any (yields fuel)

/-- Whether an expression that stands in a statement, outside of functions and classes, is such. -/
def holdsExpr (p : Expr → Bool) : Nat → Stmt → Bool
  | 0, _ => false
  | fuel + 1, s =>
    (Stmt.parts s).any p ||
    match s with
    | .function .. | .cls .. => false
    | s => (Stmt.blocks s).any (holdsExpr p fuel)

def bodyYields (body : List Stmt) : Bool := body.any (holdsExpr (yields deepest) deepest)

def bodyWaits (body : List Stmt) : Bool := body.any (holdsExpr (waits deepest) deepest)

/-- The place of the body of a function. -/
def functionPlace (place : Place) (async : Bool) (body : List Stmt) : Place where
  inFunction := true
  async := async
  valueless := (async || bodyWaits body) && bodyYields body
  features := place.features

/-! ## Expressions -/

/-- Arguments given by name: none is given twice. -/
def checkKeywords (line : Nat) : List Argument → Verdict
  | [] => .ok ()
  | .keyword _ n _ :: as => do
    checkBound line n
    match as.findSome? (lineOf n) with
    | some later => fault later (.repeatedKeyword n)
    | none => checkKeywords line as
  | _ :: as => checkKeywords line as
where
  lineOf (n : String) : Argument → Option Nat
    | .keyword line m _ => if m == n then some line else none
    | _ => none

def checkParams (line : Nat) (ps : List Param) : Verdict :=
  ps.forM fun p => checkBound line p.name

def isStar : Expr → Bool
  | .star .. => true
  | _ => false

/-- A list or a tuple of targets has one star at most. -/
def checkStars (line : Nat) (items : List Expr) : Verdict :=
  if (items.findIdx? isStar).any (· ≥ 256) then fault line .manyBeforeStar
  else if (items.filter isStar).length > 1 then fault line .severalStarred
  else .ok ()

/-- A target of an assignment, given the check of expressions. -/
def checkTarget (ofExpr : Expr → Verdict) : Nat → Expr → Verdict
  | 0, _ => .ok ()
  | fuel + 1, e =>
    match e with
    | .star line _ => fault line .starredTarget
    | .tuple line items | .list line items => do
      checkStars line items
      items.forM fun item => checkTarget ofExpr fuel (Expr.parts.withoutStar item)
    | .name line n => checkBound line n
    | .attribute _ owner n line => do
      ofExpr owner
      checkBound line n
    | e => ofExpr e

/-- The code of a comprehension, given the checks of expressions and targets in it. The source of
its first loop stands outside. -/
def checkClauses (ofExpr ofTarget : Expr → Verdict) (gathered : List Expr)
    (clauses : List Clause) : Verdict := do
  let loop (withSource : Bool) (c : Clause) : Verdict := match c with
    | .mk _ target source conditions => do
      checkIf withSource (ofExpr source)
      ofTarget target
      conditions.forM ofExpr
  (clauses.take 1).forM (loop false)
  (clauses.drop 1).forM (loop true)
  gathered.forM ofExpr

/-- Where an expression may stand by its kind. -/
def checkKind (site : Site) : Expr → Verdict
  | .star line _ => fault line .starredExpression
  | .yield line delegates _ =>
    if !site.inFunction then fault line (.outsideFunction "yield")
    else if delegates && site.async then fault line .delegationInAsync
    else .ok ()
  | .await line _ =>
    if !site.inFunction then fault line (.outsideFunction "await")
    else if !site.async && !site.gathers then fault line (.outsideAsync "await")
    else .ok ()
  | .call line _ as => checkKeywords line as
  | .lambda line ps _ => checkParams line ps
  | .gather line kind key value clauses =>
    if waits.gatheringWaits (waits deepest) kind key value clauses && kind != .generator &&
        !site.async && !site.gathers then
      fault line .asyncGathering
    else .ok ()
  | _ => .ok ()

def checkExpr : Nat → Site → Expr → Verdict
  | 0, _, _ => .ok ()
  | fuel + 1, site, e => do
    checkKind site e
    match e with
    | .gather _ kind key value clauses =>
      let inside : Site := { inFunction := true, gathers := true }
      checkClauses (checkExpr fuel inside) (checkTarget (checkExpr fuel inside) fuel)
        (gatheredParts kind key value) clauses
      (clauses.take 1).forM fun | .mk _ _ source _ => checkExpr fuel site source
    | .lambda _ ps body =>
      (ps.filterMap Param.default).forM (checkExpr fuel site)
      checkExpr fuel { inFunction := true } body
    | .naming line n value =>
      checkExpr fuel site value
      checkBound line n
    | e => (Expr.parts e).forM (checkExpr fuel site)

/-! ## Statements -/

/-- A target of a deletion. -/
def checkDeleted (ofExpr : Expr → Verdict) : Nat → Expr → Verdict
  | 0, _ => .ok ()
  | fuel + 1, e =>
    match e with
    | .tuple _ items | .list _ items => items.forM (checkDeleted ofExpr fuel)
    | .name line n => if n == debugName then fault line (.cannotDelete n) else .ok ()
    | e => ofExpr e

/-- The target of an annotation that assigns nothing. -/
def checkAnnotated (line : Nat) (ofExpr : Expr → Verdict) : Expr → Verdict
  | .name _ n => checkBound line n
  | .attribute _ owner n _ => do
    checkBound line n
    ofExpr owner
  | .index _ owner (.tuple _ items) => do
    ofExpr owner
    items.forM ofExpr
  | e => ofExpr e

/-- What is passed on the way out of a place. Statements that are run in every case are checked
there too, by `ofBlock`; behind them and behind contexts the line is forgotten. Tells whether a loop
stops the way; a `return` goes on through loops. -/
def leave (ofBlock : List Enclosure → List Stmt → Verdict) (toLoop : Bool) :
    Int → List Enclosure → Except SyntaxFault Bool
  | _, [] => .ok false
  | line, .loop :: es => if toLoop then .ok true else leave ofBlock toLoop line es
  | line, .group :: _ => .error ⟨.leavesGroup, line⟩
  | _, .ended final :: es => do
    ofBlock es final
    leave ofBlock toLoop (-1) es
  | _, .managed :: es => leave ofBlock toLoop (-1) es
  | line, .other :: es => leave ofBlock toLoop line es

/-- Statements that leave a loop. -/
def checkLeave (ofBlock : Place → List Stmt → Verdict) (place : Place) (line : Nat)
    (outside : Complaint) : Verdict := do
  let found ← leave (fun es => ofBlock { place with enclosures := es }) true line place.enclosures
  refuse (!found) line outside

/-- A value that is kept while what is run in every case is run. -/
def keepsValue : Option Expr → Bool
  | none | some (.const ..) => false
  | some _ => true

/-- The cases of a selection, given the checks of tests and bodies; a last case that takes
everything needs no shape. -/
def checkCases (ofExpr : Expr → Verdict) (ofBlock : List Stmt → Verdict) (several : Bool) :
    List Case → Verdict
  | [] => .ok ()
  | .mk shape test body :: rest => do
    checkIf (!(several && rest.isEmpty && shape.isWildcard)) do
      let b ← checkShape deepest (test.isSome || rest.isEmpty) ⟨[], shape.line⟩ shape
      b.names.forM (checkBound b.line)
    test.toList.forM ofExpr
    ofBlock body
    checkCases ofExpr ofBlock several rest

/-- The contexts of a `with` statement and its body, each inside those before it. -/
def checkContexts (ofExpr ofTarget : Expr → Verdict) (ofBlock : Place → List Stmt → Verdict)
    (line : Nat) (body : List Stmt) : Place → List (Expr × Option Expr) → Verdict
  | place, [] => ofBlock place body
  | place, (e, target) :: rest => do
    ofExpr e
    let inside ← place.enter line .managed
    target.toList.forM ofTarget
    checkContexts ofExpr ofTarget ofBlock line body inside rest

/-- The handlers of a `try` statement. -/
def checkHandlers (ofExpr : Expr → Verdict) (ofBlock : Place → List Stmt → Verdict)
    (place : Place) : List Handler → Verdict
  | [] => .ok ()
  | .mk line kind n body :: rest => do
    refuse (kind.isNone && !rest.isEmpty) line .handlerOrder
    kind.toList.forM ofExpr
    n.toList.forM (checkBound line)
    ofBlock (← place.enter line .other) body
    checkHandlers ofExpr ofBlock place rest

/-- A `try` statement without the statements that end it. -/
def checkGuarded (ofExpr : Expr → Verdict) (ofBlock : Place → List Stmt → Verdict) (place : Place)
    (line : Nat) (grouped : Bool) (body : List Stmt) (handlers : List Handler)
    (otherwise : List Stmt) : Verdict := do
  ofBlock (← place.enter line .other) body
  checkIf (!grouped) (ofBlock place otherwise)
  checkHandlers ofExpr ofBlock (place.under (if grouped then .group else .other)) handlers
  checkIf grouped (ofBlock place otherwise)

/-- A `try` statement inside the statements that end it. -/
def checkEnded (ofExpr : Expr → Verdict) (ofBlock : Place → List Stmt → Verdict) (place : Place)
    (line : Nat) (grouped : Bool) (body : List Stmt) (handlers : List Handler)
    (otherwise : List Stmt) : Verdict :=
  if handlers.isEmpty then ofBlock place (body ++ otherwise)
  else checkGuarded ofExpr ofBlock place line grouped body handlers otherwise

/-- A `try` statement with all its parts. -/
def checkGuard (ofExpr : Expr → Verdict) (ofBlock : Place → List Stmt → Verdict) (place : Place)
    (line : Nat) (grouped : Bool) (body : List Stmt) (handlers : List Handler)
    (otherwise final : List Stmt) : Verdict :=
  if final.isEmpty then checkGuarded ofExpr ofBlock place line grouped body handlers otherwise
  else do
    checkEnded ofExpr ofBlock (← place.enter line (.ended final)) line grouped body handlers
      otherwise
    ofBlock place final
    ofBlock (place.under .other) final

def checkLoaded (place : Place) (line : Nat) (path : String) (names : List String) : Verdict := do
  refuse ((path.toList.dropWhile (· == '.')) == "__future__".toList && line > place.features) line
    .lateFeature
  (names.takeWhile (· != "*")).forM (checkBound line)

def checkStmt : Nat → Place → Stmt → Verdict
  | 0, _, _ => .ok ()
  | fuel + 1, place, s => do
    let ofExpr := checkExpr fuel place.toSite
    let ofTarget := checkTarget ofExpr fuel
    let ofBlock (p : Place) (ss : List Stmt) : Verdict := ss.forM (checkStmt fuel p)
    match s with
    | .assign _ ts v =>
      ofExpr v
      ts.forM ofTarget
    | .augmented _ t _ v =>
      match t with
      | .name line n =>
        ofExpr v
        checkBound line n
      | t =>
        ofExpr t
        ofExpr v
    | .annotated line _ t _ v =>
      match v with
      | some v =>
        ofExpr v
        ofTarget t
      | none => checkAnnotated line ofExpr t
    | .delete _ ts => ts.forM (checkDeleted ofExpr fuel)
    | .ret line e =>
      refuse (!place.inFunction) line (.outsideFunction "return")
      refuse (e.isSome && place.valueless) line .valueInAsyncGenerator
      e.toList.forM ofExpr
      discard (leave (fun es => ofBlock { place with
        enclosures := if keepsValue e then .other :: es else es }) false line place.enclosures)
    | .stop line => checkLeave ofBlock place line .breakOutsideLoop
    | .next line => checkLeave ofBlock place line .continueOutsideLoop
    | .load line modules => modules.forM fun (_, n) => checkBound line n
    | .take line path names => checkLoaded place line path (names.map (·.2))
    | .choose _ e yes no =>
      ofExpr e
      ofBlock place yes
      ofBlock place no
    | .each line async t source body final =>
      refuse (async && !place.async) line (.outsideAsync "async for")
      checkIf async (ofExpr source)
      let inside ← place.enter line .loop
      checkIf (!async) (ofExpr source)
      ofTarget t
      ofBlock inside body
      ofBlock place final
    | .loop line e body final =>
      let inside ← place.enter line .loop
      ofExpr e
      ofBlock inside body
      ofBlock place final
    | .guard line grouped body handlers otherwise final =>
      checkGuard ofExpr ofBlock place line grouped body handlers otherwise final
    | .using line async contexts body =>
      refuse (async && !place.async) line (.outsideAsync "async with")
      checkContexts ofExpr ofTarget ofBlock line body place contexts
    | .select _ e cases =>
      ofExpr e
      checkCases ofExpr (ofBlock place) (cases.length > 1) cases
    | .function line _ async n ps _ body ds =>
      checkParams line ps
      ds.forM ofExpr
      (ps.filterMap Param.default).forM ofExpr
      ofBlock (functionPlace place async body) body
      checkBound line n
    | .cls line _ n as body ds =>
      ds.forM ofExpr
      ofBlock { features := place.features } body
      checkKeywords line as
      (as.map Argument.value).forM ofExpr
      checkBound line n
    | s => (Stmt.parts s).forM ofExpr

end NestShell.Code.Check

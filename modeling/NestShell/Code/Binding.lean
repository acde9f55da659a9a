import NestShell.Code.Check
/-!
The names that a piece of a program binds where it stands: targets of assignments and loops,
functions, classes, modules, and names of exceptions. Bodies of functions and classes bind their
own. Names that it declares global are bound elsewhere.
-/
namespace NestShell.Code.Binding

/-- The names that a target binds. -/
def inTarget : Nat → Expr → List String
  | 0, _ => []
  | fuel + 1, e =>
    match e with
    | .name _ n => [n]
    | .tuple _ items | .list _ items => items.flatMap (inTarget fuel)
    | .star _ t => inTarget fuel t
    | _ => []

/-- The names bound inside an expression. -/
def inExpr : Nat → Expr → List String
  | 0, _ => []
  | fuel + 1, e =>
    (match e with
    | .naming _ n _ => [n]
    | _ => []) ++ (Check.Expr.parts e).flatMap (inExpr fuel)

def inStmt : Nat → Stmt → List String
  | 0, _ => []
  | fuel + 1, s =>
    (Check.Stmt.parts s).flatMap (inExpr fuel) ++
    match s with
    | .assign _ ts _ => ts.flatMap (inTarget fuel)
    | .augmented _ t _ _ => inTarget fuel t
    | .annotated _ bare t _ v => if bare || v.isSome then inTarget fuel t else []
    | .delete _ ts => ts.flatMap (inTarget fuel)
    | .load _ ns | .take _ _ ns => ns.map (·.2)
    | .each _ _ t _ body final => inTarget fuel t ++ (body ++ final).flatMap (inStmt fuel)
    | .using _ _ cs body =>
      cs.flatMap (fun (_, t) => t.toList.flatMap (inTarget fuel)) ++ body.flatMap (inStmt fuel)
    | .guard _ _ body hs otherwise final =>
      body.flatMap (inStmt fuel) ++
      hs.flatMap (fun | .mk _ _ n b => n.toList ++ b.flatMap (inStmt fuel)) ++
      (otherwise ++ final).flatMap (inStmt fuel)
    | .select _ _ cs =>
      cs.flatMap fun | .mk shape _ b => Check.Shape.names shape ++ b.flatMap (inStmt fuel)
    | .function _ _ _ n _ _ _ _ | .cls _ _ n _ _ _ => [n]
    | .choose .. | .loop .. => (Check.Stmt.blocks s).flatMap (inStmt fuel)
    | _ => []

/-- The names that a body declares to belong elsewhere. -/
def declaredOutside : Nat → Stmt → List String
  | 0, _ => []
  | fuel + 1, s =>
    match s with
    | .globals _ ns | .nonlocals _ ns => ns
    | .function .. | .cls .. => []
    | _ => (Check.Stmt.blocks s).flatMap (declaredOutside fuel)

/-- The names that a statement declares global for the code it stands in. -/
def declaredGlobal : Nat → Stmt → List String
  | 0, _ => []
  | fuel + 1, s =>
    match s with
    | .globals _ ns => ns
    | .function .. | .cls .. => []
    | _ => (Check.Stmt.blocks s).flatMap (declaredGlobal fuel)

/-- The names that a body declares global. -/
def globalsOf (body : List Stmt) : List String := body.flatMap (declaredGlobal Check.deepest)

/-- The names bound in the comprehensions of an expression; `inside` tells that it is in one. -/
def gathered : Nat → Bool → Expr → List String
  | 0, _, _ => []
  | fuel + 1, inside, e =>
    (match e with
    | .naming _ n _ => if inside then [n] else []
    | _ => []) ++
    (Check.Expr.parts e).flatMap (gathered fuel (inside || e matches .gather ..))

/-- The names bound in the comprehensions of a statement. -/
def gatheredIn : Nat → Stmt → List String
  | 0, _ => []
  | fuel + 1, s =>
    (Check.Stmt.parts s).flatMap (gathered fuel false) ++
    match s with
    | .function .. | .cls .. => []
    | _ => (Check.Stmt.blocks s).flatMap (gatheredIn fuel)

/-- The names that a statement declares global, in the functions and classes inside it too. -/
def declaredAnywhere : Nat → Stmt → List String
  | 0, _ => []
  | fuel + 1, s =>
    match s with
    | .globals _ ns => ns
    | _ => (Check.Stmt.blocks s).flatMap (declaredAnywhere fuel)

/-- The names that a program takes to be global: those that are declared so anywhere in it, and
those that its comprehensions bind, since these do not belong to the comprehension. -/
def ofProgram (ss : List Stmt) : List String :=
  ss.flatMap (declaredAnywhere Check.deepest) ++ ss.flatMap (gatheredIn Check.deepest)

/-- Whether a body annotates, outside of its functions and classes. -/
def annotates : Nat → Stmt → Bool
  | 0, _ => false
  | fuel + 1, s =>
    match s with
    | .annotated .. => true
    | .function .. | .cls .. => false
    | _ => (Check.Stmt.blocks s).any (annotates fuel)

/-- The names that belong to a function: its parameters, then those that its body binds. -/
def ofFunction (params : List String) (body : List Stmt) : List String :=
  let outside := body.flatMap (declaredOutside Check.deepest)
  (params ++ body.flatMap (inStmt Check.deepest)).eraseDups.filter fun n => !outside.contains n

end NestShell.Code.Binding

import NestShell.Code.Tree
/-!
The expressions and statements that stand directly in an expression or a statement.
-/
namespace NestShell.Code.Check

mutual

/-- The values in a piece of a formatted text, those in its format included. -/
def Piece.parts : Piece → List Expr
  | .text _ => []
  | .value e _ format => e :: Piece.allParts format
termination_by structural p => p

def Piece.allParts : List Piece → List Expr
  | [] => []
  | p :: ps => Piece.parts p ++ Piece.allParts ps
termination_by structural ps => ps

end

def Clause.parts : Clause → List Expr
  | .mk _ target source conditions => target :: source :: conditions

/-- What a comprehension gathers: values, or keys and values. -/
def gatheredParts (kind : Collection) (key value : Expr) : List Expr :=
  if kind == .dict then [key, value] else [value]

/-- The parts of an expression that are evaluated where it is. A lambda's body is not. -/
def Expr.parts : Expr → List Expr
  | .const .. | .name .. => []
  | .formatted _ ps => Piece.allParts ps
  | .tuple _ es | .list _ es | .set _ es => es.map withoutStar
  | .dict _ es => es.flatMap Entry.parts
  | .unary _ _ e => [e]
  | .binary _ _ a b => [a, b]
  | .every _ es | .either _ es => es
  | .compare _ e rest => e :: rest.map Comparison.operand
  | .choose _ test yes no => [test, yes, no]
  | .lambda _ ps _ => ps.filterMap Param.default
  | .attribute _ e _ _ => [e]
  | .index _ e s => [e, s]
  | .slice _ a b c => a.toList ++ b.toList ++ c.toList
  | .call _ f as => f :: as.map Argument.value
  | .star _ e => [e]
  | .naming _ _ e => [e]
  | .gather _ kind k v cs => cs.flatMap Clause.parts ++ gatheredParts kind k v
  | .yield _ _ e => e.toList
  | .await _ e => [e]
where
  withoutStar : Expr → Expr
    | .star _ e => e
    | e => e

mutual

/-- The expressions in a shape. -/
def Shape.parts : Shape → List Expr
  | .value _ e => [e]
  | .constant .. | .rest .. | .any .. => []
  | .sequence _ items => Shape.allParts items
  | .mapping _ keys items _ => keys ++ Shape.allParts items
  | .object _ cls positions _ fields => cls :: (Shape.allParts positions ++ Shape.allParts fields)
  | .named _ inner _ => Shape.parts inner
  | .either _ choices => Shape.allParts choices
termination_by structural s => s

def Shape.allParts : List Shape → List Expr
  | [] => []
  | s :: ss => Shape.parts s ++ Shape.allParts ss
termination_by structural ss => ss

end

mutual

/-- The names that a shape binds. -/
def Shape.names : Shape → List String
  | .value .. | .constant .. => []
  | .rest _ n | .any _ n => n.toList
  | .sequence _ items => Shape.allNames items
  | .mapping _ _ items rest => Shape.allNames items ++ rest.toList
  | .object _ _ positions _ fields => Shape.allNames positions ++ Shape.allNames fields
  | .named _ inner n => Shape.names inner ++ [n]
  | .either _ choices => Shape.allNames choices
termination_by structural s => s

def Shape.allNames : List Shape → List String
  | [] => []
  | s :: ss => Shape.names s ++ Shape.allNames ss
termination_by structural ss => ss

end

def Case.shape : Case → Shape
  | .mk s _ _ => s

def Case.body : Case → List Stmt
  | .mk _ _ b => b

/-- The expressions that stand directly in a statement. -/
def Stmt.parts : Stmt → List Expr
  | .expr _ e => [e]
  | .assign _ ts v => v :: ts
  | .augmented _ t _ v => [t, v]
  | .annotated _ _ t a v => v.toList ++ [t, a]
  | .delete _ ts => ts
  | .ret _ e => e.toList
  | .raise _ e c => e.toList ++ c.toList
  | .assert _ e m => e :: m.toList
  | .choose _ e _ _ | .loop _ e _ _ => [e]
  | .each _ _ t s _ _ => [s, t]
  | .guard _ _ _ hs _ _ => hs.filterMap fun | .mk _ k _ _ => k
  | .using _ _ cs _ => cs.flatMap fun (e, t) => e :: t.toList
  | .select _ e cs => e :: cs.flatMap fun | .mk s test _ => Shape.parts s ++ test.toList
  | .function _ _ _ _ ps r _ ds =>
    ds ++ ps.filterMap Param.default ++ ps.filterMap Param.hint ++ r.toList
  | .cls _ _ _ as _ ds => ds ++ as.map Argument.value
  | _ => []

/-- The statements that stand directly in a statement. -/
def Stmt.blocks : Stmt → List Stmt
  | .choose _ _ a b | .each _ _ _ _ a b | .loop _ _ a b => a ++ b
  | .guard _ _ body hs otherwise final =>
    body ++ otherwise ++ hs.flatMap (fun | .mk _ _ _ b => b) ++ final
  | .select _ _ cs => cs.flatMap Case.body
  | .using _ _ _ b | .function _ _ _ _ _ _ b _ | .cls _ _ _ _ b _ => b
  | _ => []

/-- How deep trees are looked into. No text gives deeper ones, and no program is run deeper. -/
def deepest : Nat := 1000001

end NestShell.Code.Check

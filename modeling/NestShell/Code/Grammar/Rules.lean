import NestShell.Code.Parser
/-!
The rules of the grammar that refer to each other. `Rules` holds them, so that each rule is
defined over those below it; the knot is tied in `Grammar.Program`.
-/
namespace NestShell.Code.Grammar

open Code.Parser

/-- What an assignment, a loop or a deletion may name. -/
inductive TargetKind where
  | assigned
  | looped
  | deleted
  deriving DecidableEq

structure Rules where
  expression : Parser Expr
  starExpressions : Parser Expr
  namedExpression : Parser Expr
  disjunction : Parser Expr
  inversion : Parser Expr
  factor : Parser Expr
  bitwiseOr : Parser Expr
  atom : Parser Expr
  slices : Parser Expr
  arguments : Parser (List Argument)
  targetList : Parser Expr
  target : Parser Expr
  plainTarget : Parser Expr
  singleTarget : Parser Expr
  deletedTarget : Parser Expr
  annotatedContainer : Parser Expr
  shape : Parser Shape
  statements : Parser (List Stmt)
  block : Parser (List Stmt)
  elseIf : Parser (List Stmt)

/-- The part of an expression that cannot be a target, where there is one. -/
def badTarget (kind : TargetKind) : Expr → Option Expr
  | .list _ items | .tuple _ items => badTargets kind items
  | .star l e => if kind == .deleted then some (.star l e) else badTarget kind e
  | .compare l e rest =>
    if kind == .looped then
      match rest with
      | .mk .member _ :: _ => badTarget kind e
      | _ => none
    else some (.compare l e rest)
  | .name .. | .index .. | .attribute .. => none
  | e => some e
where
  badTargets (kind : TargetKind) : List Expr → Option Expr
    | [] => none
    | e :: es => (badTarget kind e).orElse fun _ => badTargets kind es

/-- Complains about the part of an expression that cannot be a target. -/
def complainTarget {α : Type} (kind : TargetKind) (e : Expr) : Parser α :=
  match badTarget kind e with
  | some bad =>
    complainAt bad.line
      (if kind == .deleted then .cannotDelete bad.description else .cannotAssign bad.description)
  | none => mismatch

/-- One item, or several or one with a comma behind it as a tuple. -/
def itemsOrTuple (item : Parser Expr) : Parser Expr := do
  let first ← item
  let more ← many do comma; item
  let trailing ← optional comma
  if more.isEmpty && trailing.isNone then return first
  else return .tuple first.line (first :: more)

end NestShell.Code.Grammar

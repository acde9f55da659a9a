import NestShell.Code.Check.Place
import NestShell.Code.Grammar.Program
/-!
What a program must obey beyond its form. It is checked as a whole before any of it runs: first
the features that it turns on, then its names, then where its parts stand.
-/
namespace NestShell.Code.Check

/-- The line a statement starts on. -/
def Stmt.line : Stmt → Nat
  | .expr l _ | .assign l _ _ | .augmented l _ _ _ | .annotated l _ _ _ _ | .delete l _ | .pass l
  | .ret l _ | .raise l _ _ | .assert l _ _ | .stop l | .next l | .globals l _ | .nonlocals l _
  | .load l _ | .take l _ _ | .choose l _ _ _ | .each l _ _ _ _ _ | .loop l _ _ _
  | .guard l _ _ _ _ _ | .using l _ _ _ | .select l _ _ | .function l _ _ _ _ _ _ _
  | .cls l _ _ _ _ _ => l

/-- The features to come that a program may turn on. -/
def knownFeatures : List String :=
  ["nested_scopes", "generators", "division", "absolute_import", "with_statement",
    "print_function", "unicode_literals", "barry_as_FLUFL", "generator_stop", "annotations"]

def checkFeature (line : Nat) (n : String) : Verdict :=
  if knownFeatures.contains n then .ok ()
  else fault line (if n == "braces" then .refusedFeature else .unknownFeature n)

/-- The features that a statement turns on, if it is one that does. -/
def featureNames? : Stmt → Option (List String)
  | .take _ path names =>
    if (path.toList.dropWhile (· == '.')) == "__future__".toList then some (names.map (·.1))
    else none
  | _ => none

/-- The line of the last statement that turns on features, of those at the beginning of a program;
`begun` tells that another statement came before, and `last` is the line of the statement before. -/
def readFeatures (begun : Bool) (last found : Nat) : List Stmt → Except SyntaxFault Nat
  | [] => .ok found
  | s :: ss =>
    if begun && Stmt.line s > last then .ok found
    else
      match featureNames? s with
      | none => readFeatures true (Stmt.line s) found ss
      | some names =>
        if begun then .error ⟨.lateFeature, Stmt.line s⟩
        else do
          names.forM (checkFeature (Stmt.line s))
          readFeatures false (Stmt.line s) (Stmt.line s) ss

def isText : Stmt → Bool
  | .expr _ (.const _ (.str _)) => true
  | _ => false

/-- The features of a program, which may begin with a text that describes it. -/
def features : List Stmt → Except SyntaxFault Nat
  | [] => .ok 0
  | s :: ss => readFeatures false 0 0 (if isText s then ss else s :: ss)

/-- The first fault of a list of statements at the top. -/
def program (ss : List Stmt) : Verdict := do
  let line ← features ss
  checkNames ss
  ss.forM (checkStmt deepest { features := line })

/-- The first fault of an expression at the top. -/
def expression (e : Expr) : Verdict := program [.expr e.line e]

end NestShell.Code.Check

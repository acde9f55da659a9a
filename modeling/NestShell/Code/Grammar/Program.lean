import NestShell.Code.Grammar.Statement
/-!
Whole programs and single entries. The rules of the grammar are tied to each other here; the depth
to which they may nest grows with the number of tokens, so that a text never runs out of it.
-/
namespace NestShell.Code.Grammar

open Code.Parser

def ruleless : Rules :=
  let none {α : Type} : Parser α := throw .outOfFuel
  ⟨none, none, none, none, none, none, none, none, none, none, none, none, none, none, none, none,
    none, none, none, none⟩

/-- The rules, nested at most so deep. Each rule stays closed until it is applied. -/
def rules : Nat → Rules
  | 0 => ruleless
  | n + 1 => {
      expression := fun s c => expression (rules n) s c
      starExpressions := fun s c => starExpressions (rules n) s c
      namedExpression := fun s c => namedExpression (rules n) s c
      disjunction := fun s c => disjunction (rules n) s c
      inversion := fun s c => inversion (rules n) s c
      factor := fun s c => factor (rules n) s c
      bitwiseOr := fun s c => bitwiseOr (rules n) s c
      atom := fun s c => atom (rules n) s c
      slices := fun s c => slices (rules n) s c
      arguments := fun s c => arguments (rules n) s c
      targetList := fun s c => targetList (rules n) s c
      target := fun s c => target (rules n) s c
      plainTarget := fun s c => plainTarget (rules n) s c
      singleTarget := fun s c => singleTarget (rules n) s c
      deletedTarget := fun s c => deletedTarget (rules n) s c
      annotatedContainer := fun s c => annotatedContainer (rules n) s c
      shape := fun s c => shape (rules n) s c
      statements := fun s c => statements (rules n) s c
      block := fun s c => block (rules n) s c
      elseIf := fun s c => elseIf (rules n) s c }

def program (r : Rules) : Parser (List Stmt) := do
  let ss ← optional (statements r)
  discard (ofKind .textEnd)
  return ss.getD []

/-- One statement, or nothing, as typed at a prompt. -/
def entryAtPrompt (r : Rules) : Parser (List Stmt) := oneOf [
  do
    let s ← compoundStatement r
    discard (ofKind .lineEnd)
    return [s],
  simpleStatements r,
  do discard (ofKind .lineEnd); return [],
  do discard (ofKind .textEnd); return []]

def depthFor (tokens : Array Token) : Nat := 12 * tokens.size + 60

/-- The program that a text writes, or why it writes none. -/
def readProgram (text : String) : Except Failure (List Stmt) :=
  let (tokens, ending) := Token.scan .program text
  parse .program (program (rules (depthFor tokens))) tokens ending

def readEntry (text : String) : Except Failure (List Stmt) :=
  let (tokens, ending) := Token.scan .entry text
  parse .entry (entryAtPrompt (rules (depthFor tokens))) tokens ending

end NestShell.Code.Grammar

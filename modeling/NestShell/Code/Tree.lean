import NestShell.Code.Value
/-!
Programs of the shell's language as trees. Each expression and statement knows the line it starts
on, which is where a failure in it is reported.
-/
namespace NestShell.Code

inductive UnaryOp where
  | negative
  | positive
  | invert
  | not
  deriving DecidableEq, Repr

inductive BinaryOp where
  | add
  | subtract
  | multiply
  | divide
  | floorDivide
  | modulo
  | power
  | matrix
  | bitAnd
  | bitOr
  | bitXor
  | shiftLeft
  | shiftRight
  deriving DecidableEq, Repr

inductive CompareOp where
  | equal
  | unequal
  | less
  | lessEqual
  | greater
  | greaterEqual
  | is
  | isNot
  | member
  | notMember
  deriving DecidableEq, Repr

inductive ParamKind where
  | positional
  | regular
  | rest
  | keyword
  | keywordRest
  deriving DecidableEq, Repr

inductive Collection where
  | list
  | set
  | dict
  | generator
  deriving DecidableEq, Repr

mutual

inductive Expr where
  | const (line : Nat) (value : Value)
  | name (line : Nat) (id : String)
  | formatted (line : Nat) (parts : List Piece)
  | tuple (line : Nat) (items : List Expr)
  | list (line : Nat) (items : List Expr)
  | set (line : Nat) (items : List Expr)
  | dict (line : Nat) (entries : List Entry)
  | unary (line : Nat) (op : UnaryOp) (operand : Expr)
  | binary (line : Nat) (op : BinaryOp) (left right : Expr)
  | every (line : Nat) (items : List Expr)
  | either (line : Nat) (items : List Expr)
  | compare (line : Nat) (first : Expr) (rest : List Comparison)
  | choose (line : Nat) (test yes no : Expr)
  | lambda (line : Nat) (params : List Param) (body : Expr)
  | attribute (line : Nat) (owner : Expr) (id : String) (idLine : Nat)
  | index (line : Nat) (owner sub : Expr)
  | slice (line : Nat) (low high step : Option Expr)
  | call (line : Nat) (func : Expr) (args : List Argument)
  | star (line : Nat) (operand : Expr)
  | naming (line : Nat) (id : String) (value : Expr)
  | gather (line : Nat) (kind : Collection) (key value : Expr) (clauses : List Clause)
  /-- `delegates` tells that the values come from another iterator. -/
  | yield (line : Nat) (delegates : Bool) (value : Option Expr)
  | await (line : Nat) (value : Expr)

/-- A piece of a formatted text: fixed text, or a value with its conversion and format. -/
inductive Piece where
  | text (s : String)
  | value (e : Expr) (conversion : Option Char) (format : List Piece)

inductive Entry where
  | pair (key value : Expr)
  | spread (e : Expr)

inductive Comparison where
  | mk (op : CompareOp) (operand : Expr)

inductive Argument where
  | plain (e : Expr)
  | star (e : Expr)
  | keyword (line : Nat) (name : String) (e : Expr)
  | doubleStar (e : Expr)

/-- One `for` clause of a comprehension with its conditions. -/
inductive Clause where
  | mk (async : Bool) (target source : Expr) (conditions : List Expr)

inductive Param where
  | mk (line : Nat) (kind : ParamKind) (name : String) (hint default : Option Expr)

end

instance : Inhabited Expr := ⟨.tuple 0 []⟩

/-- The expressions of an entry of a dictionary. -/
def Entry.parts : Entry → List Expr
  | .pair key value => [key, value]
  | .spread e => [e]

def Comparison.operand : Comparison → Expr
  | .mk _ e => e

/-- The expression that an argument gives. -/
def Argument.value : Argument → Expr
  | .plain e | .star e | .keyword _ _ e | .doubleStar e => e

def Argument.isPosition : Argument → Bool
  | .plain _ | .star _ => true
  | .keyword .. | .doubleStar _ => false

def Param.line : Param → Nat
  | .mk l _ _ _ _ => l

def Param.kind : Param → ParamKind
  | .mk _ k _ _ _ => k

def Param.name : Param → String
  | .mk _ _ n _ _ => n

def Param.hint : Param → Option Expr
  | .mk _ _ _ a _ => a

def Param.default : Param → Option Expr
  | .mk _ _ _ _ d => d

def Param.withDefault : Param → Option Expr → Param
  | .mk l k n a _, d => .mk l k n a d

def Param.ofKind (kind : ParamKind) : Param → Param
  | .mk l _ n a d => .mk l kind n a d

def Expr.line : Expr → Nat
  | .const l _ | .name l _ | .formatted l _ | .tuple l _ | .list l _ | .set l _ | .dict l _
  | .unary l _ _ | .binary l _ _ _ | .every l _ | .either l _ | .compare l _ _ | .choose l _ _ _
  | .lambda l _ _ | .attribute l _ _ _ | .index l _ _ | .slice l _ _ _ | .call l _ _ | .star l _
  | .naming l _ _ | .gather l _ _ _ _ | .yield l _ _ | .await l _ => l

/-- How messages call an expression. -/
def Expr.description : Expr → String
  | .const _ .none => "None"
  | .const _ (.bool true) => "True"
  | .const _ (.bool false) => "False"
  | .const _ .ellipsis => "ellipsis"
  | .const _ _ => "literal"
  | .name .. => "name"
  | .formatted .. => "f-string expression"
  | .tuple .. => "tuple"
  | .list .. => "list"
  | .set .. => "set display"
  | .dict .. => "dict literal"
  | .unary .. | .binary .. | .every .. | .either .. => "expression"
  | .compare .. => "comparison"
  | .choose .. => "conditional expression"
  | .lambda .. => "lambda"
  | .attribute .. => "attribute"
  | .index .. => "subscript"
  | .slice .. => "slice"
  | .call .. => "function call"
  | .star .. => "starred"
  | .naming .. => "named expression"
  | .gather _ .list _ _ _ => "list comprehension"
  | .gather _ .set _ _ _ => "set comprehension"
  | .gather _ .dict _ _ _ => "dict comprehension"
  | .gather _ .generator _ _ _ => "generator expression"
  | .yield .. => "yield expression"
  | .await .. => "await expression"

/-- What a case of a selection asks of its subject. -/
inductive Shape where
  | value (line : Nat) (e : Expr)
  | constant (line : Nat) (v : Value)
  | sequence (line : Nat) (items : List Shape)
  | mapping (line : Nat) (keys : List Expr) (items : List Shape) (rest : Option String)
  | object (line : Nat) (cls : Expr) (positions : List Shape) (names : List String)
      (fields : List Shape)
  /-- The items of a sequence that no other shape takes. -/
  | rest (line : Nat) (name : Option String)
  /-- Whatever it is, bound to a name where there is one. -/
  | any (line : Nat) (name : Option String)
  /-- What has the inner shape, bound to a name. -/
  | named (line : Nat) (inner : Shape) (name : String)
  | either (line : Nat) (choices : List Shape)

def Shape.line : Shape → Nat
  | .value l _ | .constant l _ | .sequence l _ | .mapping l _ _ _ | .object l _ _ _ _ | .rest l _
  | .any l _ | .named l _ _ | .either l _ => l

/-- Whether a shape takes everything and binds nothing. -/
def Shape.isWildcard : Shape → Bool
  | .any _ none => true
  | _ => false

def Shape.isRest : Shape → Bool
  | .rest .. => true
  | _ => false

def Shape.isLooseRest : Shape → Bool
  | .rest _ none => true
  | _ => false

mutual

/-- A statement. -/
inductive Stmt where
  | expr (line : Nat) (e : Expr)
  | assign (line : Nat) (targets : List Expr) (value : Expr)
  | augmented (line : Nat) (target : Expr) (op : BinaryOp) (value : Expr)
  /-- `bare` tells that the target is a name without brackets. -/
  | annotated (line : Nat) (bare : Bool) (target hint : Expr) (value : Option Expr)
  | delete (line : Nat) (targets : List Expr)
  | pass (line : Nat)
  | ret (line : Nat) (value : Option Expr)
  | raise (line : Nat) (error cause : Option Expr)
  | assert (line : Nat) (test : Expr) (message : Option Expr)
  | stop (line : Nat)
  | next (line : Nat)
  | globals (line : Nat) (names : List String)
  | nonlocals (line : Nat) (names : List String)
  | load (line : Nat) (modules : List (String × String))
  | take (line : Nat) (module : String) (names : List (String × String))
  | choose (line : Nat) (test : Expr) (yes no : List Stmt)
  | each (line : Nat) (async : Bool) (target source : Expr) (body final : List Stmt)
  | loop (line : Nat) (test : Expr) (body final : List Stmt)
  /-- `grouped` tells that the handlers take exceptions out of groups. -/
  | guard (line : Nat) (grouped : Bool) (body : List Stmt) (handlers : List Handler)
      (otherwise final : List Stmt)
  | using (line : Nat) (async : Bool) (contexts : List (Expr × Option Expr)) (body : List Stmt)
  | select (line : Nat) (subject : Expr) (cases : List Case)
  | function (line last : Nat) (async : Bool) (name : String) (params : List Param)
      (result : Option Expr) (body : List Stmt) (decorators : List Expr)
  | cls (line last : Nat) (name : String) (args : List Argument) (body : List Stmt)
      (decorators : List Expr)

/-- One `except` clause. -/
inductive Handler where
  | mk (line : Nat) (kind : Option Expr) (name : Option String) (body : List Stmt)

/-- One `case` clause. -/
inductive Case where
  | mk (shape : Shape) (guard : Option Expr) (body : List Stmt)

end

end NestShell.Code

import NestShell.Code.Complex
import NestShell.Code.Tree
import NestShell.Text.Quoted
import NestShell.Text.Search
/-!
Expressions as text. Annotations are not evaluated: a program keeps them in the form in which this
writes them, with no more brackets than they need.
-/
namespace NestShell.Code

open NestShell.Text

/-- How a constant is shown. -/
def constantText : Value → String
  | .bool true => "True"
  | .bool false => "False"
  | .int n => toString n
  | .float x => Decimal.write x
  | .complex re im => Complex.shown re im
  | .str s => quoted s
  | .bytes bs => quotedBytes bs
  | .ellipsis => "..."
  | _ => "None"

namespace Written

/-! ## Words -/

/-- A constant as a program writes it; a number without bounds has too large an exponent. -/
def constant (v : Value) : String :=
  match v with
  | .float _ | .complex .. =>
    String.ofList (replaceIn "inf".toList "1e309".toList none (constantText v).toList)
  | v => constantText v

def unaryText : UnaryOp → String
  | .negative => "-"
  | .positive => "+"
  | .invert => "~"
  | .not => "not "

def binaryText : BinaryOp → String
  | .add => " + "
  | .subtract => " - "
  | .multiply => " * "
  | .divide => " / "
  | .floorDivide => " // "
  | .modulo => " % "
  | .power => " ** "
  | .matrix => " @ "
  | .bitAnd => " & "
  | .bitOr => " | "
  | .bitXor => " ^ "
  | .shiftLeft => " << "
  | .shiftRight => " >> "

def compareText : CompareOp → String
  | .equal => " == "
  | .unequal => " != "
  | .less => " < "
  | .lessEqual => " <= "
  | .greater => " > "
  | .greaterEqual => " >= "
  | .is => " is "
  | .isNot => " is not "
  | .member => " in "
  | .notMember => " not in "

/-! ## How closely operators bind -/

def whole : Nat := 0

def test : Nat := 1

def disjunction : Nat := 2

def conjunction : Nat := 3

def comparison : Nat := 5

/-- What a star stands before. -/
def operand : Nat := 6

def power : Nat := 13

def waiting : Nat := 14

def atom : Nat := 15

def ofUnary : UnaryOp → Nat
  | .not => 4
  | _ => 12

def ofBinary : BinaryOp → Nat
  | .bitOr => operand
  | .bitXor => 7
  | .bitAnd => 8
  | .shiftLeft | .shiftRight => 9
  | .add | .subtract => 10
  | .multiply | .matrix | .divide | .modulo | .floorDivide => 11
  | .power => power

/-! ## Expressions -/

def bracketed (when_ : Bool) (s : String) : String := if when_ then "(" ++ s ++ ")" else s

def row (items : List String) : String := ", ".intercalate items

/-- The parameters of a function without a name, given how defaults are written. -/
def parameters (write : Expr → String) (ps : List Param) : String :=
  let ofKind (kind : ParamKind) (mark : String) : List String :=
    (ps.filter (·.kind == kind)).map fun p =>
      mark ++ p.name ++ p.default.elim "" fun d => "=" ++ write d
  let positional := ofKind .positional ""
  let regular := ofKind .regular ""
  let rest := ofKind .rest "*"
  let keyword := ofKind .keyword ""
  (if positional.isEmpty && regular.isEmpty then "" else " ") ++
    row (positional ++ (if positional.isEmpty then [] else ["/"]) ++ regular ++
      (if rest.isEmpty && !keyword.isEmpty then ["*"] else rest) ++ keyword ++
      ofKind .keywordRest "**")

/-- Fixed text of a formatted one, where brackets come twice. -/
def escaped (s : String) : String :=
  String.ofList (s.toList.flatMap fun c => if c == '\x7b' || c == '\x7d' then [c, c] else [c])

def clause (write : Nat → Expr → String) : Clause → String
  | .mk async target source conditions =>
    (if async then " async for " else " for ") ++ write whole target ++ " in " ++
      write (test + 1) source ++
      String.join (conditions.map fun c => " if " ++ write (test + 1) c)

def argument (write : Nat → Expr → String) : Argument → String
  | .plain e => write test e
  | .star e => "*" ++ write operand e
  | .keyword _ n e => n ++ "=" ++ write test e
  | .doubleStar e => "**" ++ write test e

def entry (write : Nat → Expr → String) : Entry → String
  | .pair k v => write test k ++ ": " ++ write test v
  | .spread e => "**" ++ write operand e

mutual

/-- An expression in a place that takes what binds at least so closely. -/
def expression : Nat → Nat → Expr → String
  | 0, _, _ => ""
  | fuel + 1, level, e =>
    let write := expression fuel
    let items (es : List Expr) := row (es.map (write test))
    match e with
    | .const _ v => constant v
    | .name _ n => n
    | .formatted _ ps => "f" ++ quoted (pieces fuel ps)
    | .tuple _ [] => "()"
    | .tuple _ [e] => bracketed (level > whole) (write test e ++ ",")
    | .tuple _ es => bracketed (level > whole) (items es)
    | .list _ es => "[" ++ items es ++ "]"
    | .set _ es => "\x7b" ++ items es ++ "\x7d"
    | .dict _ es => "\x7b" ++ row (es.map (entry write)) ++ "\x7d"
    | .unary _ op e => bracketed (level > ofUnary op) (unaryText op ++ write (ofUnary op) e)
    | .binary _ .power a b =>
      bracketed (level > power) (write (power + 1) a ++ binaryText .power ++ write power b)
    | .binary _ op a b =>
      bracketed (level > ofBinary op)
        (write (ofBinary op) a ++ binaryText op ++ write (ofBinary op + 1) b)
    | .every _ es =>
      bracketed (level > conjunction)
        (" and ".intercalate (es.map (write (conjunction + 1))))
    | .either _ es =>
      bracketed (level > disjunction) (" or ".intercalate (es.map (write (disjunction + 1))))
    | .compare _ first rest =>
      bracketed (level > comparison) (write (comparison + 1) first ++
        String.join (rest.map fun | .mk op e => compareText op ++ write (comparison + 1) e))
    | .choose _ condition yes no =>
      bracketed (level > test) (write (test + 1) yes ++ " if " ++ write (test + 1) condition ++
        " else " ++ write test no)
    | .lambda _ ps body =>
      bracketed (level > test) ("lambda" ++ parameters (write test) ps ++ ": " ++ write test body)
    | .attribute _ owner n _ =>
      write atom owner ++ (if owner matches .const _ (.int _) then " ." else ".") ++ n
    | .index _ owner sub => write atom owner ++ "[" ++ write whole sub ++ "]"
    | .slice _ low high step =>
      let part (e : Option Expr) := e.elim "" (write test)
      part low ++ ":" ++ part high ++ step.elim "" fun e => ":" ++ write test e
    | .call _ f [.plain (.gather l .generator k v cs)] =>
      write atom f ++ write test (.gather l .generator k v cs)
    | .call _ f as => write atom f ++ "(" ++ row (as.map (argument write)) ++ ")"
    | .star _ e => "*" ++ write operand e
    | .naming _ n e => bracketed (level > whole) (n ++ " := " ++ write atom e)
    | .gather _ kind k v cs =>
      let clauses := String.join (cs.map (clause write))
      match kind with
      | .list => "[" ++ write test v ++ clauses ++ "]"
      | .set => "\x7b" ++ write test v ++ clauses ++ "\x7d"
      | .dict => "\x7b" ++ write test k ++ ": " ++ write test v ++ clauses ++ "\x7d"
      | .generator => "(" ++ write test v ++ clauses ++ ")"
    | .yield _ delegates e =>
      "(yield" ++ (if delegates then " from" else "") ++ e.elim "" (" " ++ write test ·) ++ ")"
    | .await _ e => bracketed (level > waiting) ("await " ++ write atom e)

/-- What stands between the quotes of a formatted text. -/
def pieces : Nat → List Piece → String
  | 0, _ => ""
  | fuel + 1, ps => String.join (ps.map fun p =>
    match p with
    | .text s => escaped s
    | .value e conversion format =>
      let written := expression fuel (test + 1) e
      "\x7b" ++ (if written.startsWith "\x7b" then " " else "") ++ written ++
        conversion.elim "" (fun c => "!" ++ c.toString) ++
        (if format.isEmpty then "" else ":" ++ pieces fuel format) ++ "\x7d")

end

end Written

/-- The text of an expression. -/
def written (e : Expr) : String := Written.expression 1000001 Written.test e

end NestShell.Code

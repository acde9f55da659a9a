import NestShell.Code.Grammar.Shape
/-!
Statements: those of one line, and those that hold blocks.
-/
namespace NestShell.Code.Grammar

open Code.Parser

variable (r : Rules)

/-! ## Statements of one line -/

def rightSide : Parser Expr := oneOf [yieldExpression r, starExpressions r]

def augmentOps : List (String × BinaryOp) :=
  [("+=", .add), ("-=", .subtract), ("*=", .multiply), ("@=", .matrix), ("/=", .divide),
    ("%=", .modulo), ("&=", .bitAnd), ("|=", .bitOr), ("^=", .bitXor), ("<<=", .shiftLeft),
    (">>=", .shiftRight), ("**=", .power), ("//=", .floorDivide)]

def augmentOp : Parser BinaryOp := do
  let t ← token fun t => t.kind == .mark && (augmentOps.lookup t.text).isSome
  return (augmentOps.lookup t.text).getD .add

def targetEqual : Parser Expr := do
  let t ← targetList r
  discard (mark "=")
  return t

def badAssignment {α : Type} : Parser α := explaining <| oneOf [
  do
    let e ← annotatedContainer r
    discard (mark ":")
    discard r.expression
    complainAt e.line (.annotatedTarget e.description),
  do
    let e ← starNamedExpression r
    comma
    discard (many (starNamedExpressions r))
    discard (mark ":")
    discard r.expression
    complainAt e.line (.annotatedTarget "tuple"),
  do
    let e ← r.expression
    discard (mark ":")
    discard r.expression
    complainAt e.line .illegalAnnotated,
  do
    discard (many (targetEqual r))
    let e ← starExpressions r
    discard (mark "=")
    complainTarget .assigned e,
  do
    discard (many (targetEqual r))
    let e ← yieldExpression r
    discard (mark "=")
    complainAt e.line .assignToYield,
  do
    let e ← starExpressions r
    discard augmentOp
    discard (rightSide r)
    complainAt e.line (.illegalAugmented e.description)]

def hinted (bare : Bool) (target : Expr) : Parser Stmt := do
  discard (mark ":")
  let a ← r.expression
  let v ← optional do discard (mark "="); rightSide r
  return .annotated target.line bare target a v

def assignment : Parser Stmt := do
  let plain : List (Parser Stmt) := [
    do hinted r true (← nameTarget),
    do
      let t ← oneOf [
        do
          discard (mark "(")
          let t ← singleTarget r
          discard (mark ")")
          return t,
        memberTarget r]
      hinted r false t,
    do
      let ts ← many1 (targetEqual r)
      let v ← rightSide r
      notAhead (mark "=")
      return .assign ((ts.head?.map Expr.line).getD 0) ts v]
  match ← attempt? (oneOf plain) with
  | some s => return s
  | none =>
    match ← attempt? do return (← singleTarget r, ← augmentOp) with
    | some (t, op) => return .augmented t.line t op (← rightSide r)
    | none => badAssignment r

def dottedName : Parser String := do
  let first ← name
  let more ← many do discard (mark "."); name
  return ".".intercalate ((first :: more).map Token.text)

/-- What an import binds where no name is given: the first part. -/
def firstPart (path : String) : String := (path.splitOn ".").headD path

def importedName (path : Parser String) (bound : String → String) : Parser (String × String) := do
  let p ← path
  let given ← optional do discard (word "as"); name
  return (p, (given.map Token.text).getD (bound p))

def importStatement : Parser Stmt := do
  let t ← word "import"
  let ms ← separated "," (importedName dottedName firstPart)
  return .load t.line ms

def importedNames : Parser (List (String × String)) :=
  separated "," (importedName (do return (← name).text) id)

def fromStatement : Parser Stmt := do
  let t ← word "from"
  let dots ← many (oneOf [mark ".", mark "..."])
  let path ← if dots.isEmpty then some <$> dottedName else optional dottedName
  discard (word "import")
  let names ← oneOf [
    do
      discard (mark "(")
      let ns ← importedNames
      optionalComma
      discard (mark ")")
      return ns,
    do
      let ns ← importedNames
      notAhead comma
      return ns,
    do
      discard (mark "*")
      return [("*", "*")],
    explaining do
      discard importedNames
      comma
      discard (ofKind .lineEnd)
      complain .trailingComma]
  return .take t.line (String.join (dots.map Token.text) ++ path.getD "") names

def deleteStatement : Parser Stmt := oneOf [
  do
    let t ← word "del"
    let items ← listTargets (deletedTarget r)
    ahead (oneOf [discard (mark ";"), discard (ofKind .lineEnd)])
    return .delete t.line items,
  explaining do
    discard (word "del")
    complainTarget .deleted (← starExpressions r)]

def nameList (keyword : String) : Parser (Nat × List String) := do
  let t ← word keyword
  let ns ← separated "," name
  return (t.line, ns.map Token.text)

def raiseStatement : Parser Stmt := do
  let t ← word "raise"
  let tail : Parser (Expr × Option Expr) := do
    let e ← r.expression
    return (e, ← optional do discard (word "from"); r.expression)
  match ← optional tail with
  | some (e, cause) => return .raise t.line (some e) cause
  | none => return .raise t.line none none

def simpleStatement : Parser Stmt := oneOf [
  assignment r,
  do
    let e ← starExpressions r
    return .expr e.line e,
  do
    let t ← word "return"
    return .ret t.line (← optional (starExpressions r)),
  importStatement,
  fromStatement,
  raiseStatement r,
  do return .pass (← word "pass").line,
  deleteStatement r,
  do
    let e ← yieldExpression r
    return .expr e.line e,
  do
    let t ← word "assert"
    let e ← r.expression
    return .assert t.line e (← optional do comma; r.expression),
  do return .stop (← word "break").line,
  do return .next (← word "continue").line,
  do
    let (line, ns) ← nameList "global"
    return .globals line ns,
  do
    let (line, ns) ← nameList "nonlocal"
    return .nonlocals line ns]

def simpleStatements : Parser (List Stmt) := oneOf [
  do
    let s ← simpleStatement r
    notAhead (mark ";")
    discard (ofKind .lineEnd)
    return [s],
  do
    let ss ← separated ";" (simpleStatement r)
    discard (optional (mark ";"))
    discard (ofKind .lineEnd)
    return ss]

/-! ## Blocks -/

/-- A line end that no indented line follows. -/
def noIndent : Parser Unit := do
  discard (ofKind .lineEnd)
  notAhead (ofKind .indent)

def block : Parser (List Stmt) := oneOf [
  do
    discard (ofKind .lineEnd)
    discard (ofKind .indent)
    let ss ← r.statements
    discard (ofKind .dedent)
    return ss,
  simpleStatements r,
  explaining do
    noIndent
    complain (.expectedBlock none)]

/-- Complains that no block follows the header that began on a line. -/
def wantBlock {α : Type} (what : String) (line : Nat) : Parser α := do
  discard (mark ":")
  noIndent
  complain (.expectedBlock (some (what, line)))

/-- Complains that a header ends without its colon. -/
def wantColon {α : Type} : Parser α := do
  discard (ofKind .lineEnd)
  complain (.expected ":")

def elseBlock : Parser (List Stmt) := oneOf [
  explaining do
    let t ← word "else"
    wantBlock "'else' statement" t.line,
  do
    discard (word "else")
    demand ":"
    r.block]

/-- A header of a test, as in `if`, that is wrong. -/
def badTest {α : Type} (keyword : String) : Parser α := explaining <| oneOf [
  do
    discard (word keyword)
    discard r.namedExpression
    wantColon,
  do
    let t ← word keyword
    discard r.namedExpression
    wantBlock ("'" ++ keyword ++ "' statement") t.line]

def testHeader (keyword : String) : Parser (Nat × Expr) := do
  let t ← word keyword
  let e ← r.namedExpression
  discard (mark ":")
  return (t.line, e)

def afterTest : Parser (List Stmt) := do
  return (← optional (oneOf [r.elseIf, elseBlock r])).getD []

def ifStatement : Parser Stmt := oneOf [
  badTest r "if",
  do
    let (line, e) ← testHeader r "if"
    let yes ← r.block
    return .choose line e yes (← afterTest r)]

def elseIf : Parser (List Stmt) := oneOf [
  badTest r "elif",
  do
    let (line, e) ← testHeader r "elif"
    let yes ← r.block
    return [.choose line e yes (← afterTest r)]]

def whileStatement : Parser Stmt := oneOf [
  badTest r "while",
  do
    let (line, e) ← testHeader r "while"
    let body ← r.block
    return .loop line e body ((← optional (elseBlock r)).getD [])]

def forStatement : Parser Stmt := oneOf [
  explaining <| oneOf [
    do
      discard asyncWord
      discard (word "for")
      discard (targetList r)
      discard (word "in")
      discard (starExpressions r)
      wantColon,
    do
      discard asyncWord
      let t ← word "for"
      discard (targetList r)
      discard (word "in")
      discard (starExpressions r)
      wantBlock "'for' statement" t.line],
  do
    let header : Parser (Nat × Bool × Expr) := do
      let line := (← peek).line
      let async ← asyncWord
      discard (word "for")
      let e ← targetList r
      discard (word "in")
      return (line, async, e)
    match ← attempt? header with
    | some (line, async, t) => do
      let source ← starExpressions r
      discard (mark ":")
      let body ← r.block
      return .each line async t source body ((← optional (elseBlock r)).getD [])
    | none => badLoopTarget r]

def contextEnd : Parser Unit := ahead (oneOf [mark ",", mark ")", mark ":"])

def context : Parser (Expr × Option Expr) := oneOf [
  do
    let e ← r.expression
    discard (word "as")
    let t ← target r
    contextEnd
    return (e, some t),
  explaining do
    discard r.expression
    discard (word "as")
    let e ← r.expression
    contextEnd
    complainTarget .assigned e,
  do return (← r.expression, none)]

def looseContext (item : Parser Expr) : Parser Unit := do
  discard item
  discard (optional do discard (word "as"); target r)

/-- The contexts of a `with` header in either of its forms, read loosely. -/
def looseContexts : List (Parser Token) := [
  do
    discard asyncWord
    let t ← word "with"
    discard (separated "," (looseContext r r.expression))
    return t,
  do
    discard asyncWord
    let t ← word "with"
    discard (mark "(")
    discard (separated "," (looseContext r (itemsOrTuple r.expression)))
    optionalComma
    discard (mark ")")
    return t]

def withStatement : Parser Stmt := oneOf [
  explaining <| oneOf <| (looseContexts r).map fun header => do
    let t ← header
    wantBlock "'with' statement" t.line,
  do
    let line := (← peek).line
    let async ← asyncWord
    discard (word "with")
    discard (mark "(")
    let cs ← separated "," (context r)
    optionalComma
    discard (mark ")")
    discard (mark ":")
    return .using line async cs (← r.block),
  do
    let line := (← peek).line
    let async ← asyncWord
    discard (word "with")
    let cs ← separated "," (context r)
    discard (mark ":")
    return .using line async cs (← r.block),
  explaining <| oneOf <| (looseContexts r).map fun header => do
    discard header
    wantColon]

def bound : Parser (Option String) := optional do
  discard (word "as")
  return (← name).text

/-- A header of a handler that is wrong, whether or not it takes exceptions out of groups. -/
def badHandler {α : Type} : Parser α := explaining <| oneOf [
  do
    discard (word "except")
    discard (optional (mark "*"))
    let e ← r.expression
    comma
    discard (itemsOrTuple r.expression)
    discard bound
    discard (mark ":")
    complainAt e.line .bracketedHandlers,
  do
    discard (word "except")
    discard (optional (mark "*"))
    discard r.expression
    discard bound
    wantColon,
  do
    discard (word "except")
    wantColon,
  do
    discard (word "except")
    discard (mark "*")
    discard (oneOf [ofKind .lineEnd, mark ":"])
    complain .missingKinds]

def handlerBlock : Parser Handler := oneOf [
  explaining <| oneOf [
    do
      let t ← word "except"
      discard r.expression
      discard bound
      wantBlock "'except' statement" t.line,
    do
      let t ← word "except"
      wantBlock "'except' statement" t.line],
  do
    let t ← word "except"
    let e ← r.expression
    let n ← bound
    discard (mark ":")
    return .mk t.line (some e) n (← r.block),
  do
    let t ← word "except"
    discard (mark ":")
    return .mk t.line none none (← r.block),
  badHandler r]

/-- A handler that takes exceptions out of a group. -/
def groupHandlerBlock : Parser Handler := oneOf [
  explaining do
    let t ← word "except"
    discard (mark "*")
    discard r.expression
    discard bound
    wantBlock "'except*' statement" t.line,
  do
    let t ← word "except"
    discard (mark "*")
    let e ← r.expression
    let n ← bound
    discard (mark ":")
    return .mk t.line (some e) n (← r.block),
  badHandler r]

def finalBlock : Parser (List Stmt) := oneOf [
  explaining do
    let t ← word "finally"
    wantBlock "'finally' statement" t.line,
  do
    discard (word "finally")
    demand ":"
    r.block]

def tryStatement : Parser Stmt := oneOf [
  explaining <| oneOf [
    do
      let t ← word "try"
      wantBlock "'try' statement" t.line,
    do
      discard (word "try")
      discard (mark ":")
      discard r.block
      notAhead (oneOf [word "except", word "finally"])
      complain .missingHandler,
    do
      discard (word "try")
      discard (mark ":")
      discard (many r.block)
      discard (oneOf [
        do
          discard (many1 (handlerBlock r))
          groupHandlerBlock r,
        do
          discard (many1 (groupHandlerBlock r))
          handlerBlock r])
      discard (many r.block)
      complain .mixedHandlers],
  do
    let t ← word "try"
    demand ":"
    let body ← r.block
    let handled (grouped : Bool) (handler : Parser Handler) : Parser Stmt := do
      let hs ← many1 handler
      let otherwise ← optional (elseBlock r)
      let final ← optional (finalBlock r)
      return .guard t.line grouped body hs (otherwise.getD []) (final.getD [])
    oneOf [
      do return .guard t.line false body [] [] (← finalBlock r),
      handled false (handlerBlock r),
      handled true (groupHandlerBlock r)]]

def decorators : Parser (List Expr) := many do
  discard (mark "@")
  let e ← r.namedExpression
  discard (ofKind .lineEnd)
  return e

def arrow : Parser (Option Expr) := optional do discard (mark "->"); r.expression

def functionStatement : Parser Stmt := do
  let ds ← decorators r
  oneOf [
    explaining do
      discard asyncWord
      let t ← word "def"
      discard name
      discard (mark "(")
      discard (optional (params r functionStyle))
      discard (mark ")")
      discard (arrow r)
      wantBlock "function definition" t.line,
    do
      let line := (← peek).line
      let async ← asyncWord
      discard (word "def")
      let n ← name
      demand "("
      let ps ← optional (params r functionStyle)
      discard (mark ")")
      let result ← arrow r
      demand ":"
      let body ← r.block
      return .function line (← lastLine) async n.text (ps.getD []) result body ds]

def classArguments : Parser (List Argument) := do
  let as ← optional do
    discard (mark "(")
    let as ← optional r.arguments
    discard (mark ")")
    return positionsFirst (as.getD [])
  return as.getD []

def classStatement : Parser Stmt := do
  let ds ← decorators r
  oneOf [
    explaining <| oneOf [
      do
        discard (word "class")
        discard name
        discard (classArguments r)
        wantColon,
      do
        let t ← word "class"
        discard name
        discard (classArguments r)
        wantBlock "class definition" t.line],
    do
      let t ← word "class"
      let n ← name
      let as ← classArguments r
      discard (mark ":")
      let body ← r.block
      return .cls t.line (← lastLine) n.text as body ds]

/-! ## Selections -/

/-- The subject of a selection: one item, or several as a tuple. -/
def subject : Parser Expr := oneOf [
  do
    let first ← starNamedExpression r
    comma
    let more ← optional (starNamedExpressions r)
    return .tuple first.line (first :: more.getD []),
  r.namedExpression]

def guardTest : Parser (Option Expr) := optional do
  discard (word "if")
  r.namedExpression

def caseBlock : Parser Case := oneOf [
  explaining <| oneOf [
    do
      discard (word "case")
      discard (shapes r)
      discard (guardTest r)
      wantColon,
    do
      let t ← word "case"
      discard (shapes r)
      discard (guardTest r)
      wantBlock "'case' statement" t.line],
  do
    discard (word "case")
    let s ← shapes r
    let test ← guardTest r
    discard (mark ":")
    return .mk s test (← r.block)]

def matchStatement : Parser Stmt := oneOf [
  do
    let t ← word "match"
    let e ← subject r
    discard (mark ":")
    discard (ofKind .lineEnd)
    discard (ofKind .indent)
    let cases ← many1 (caseBlock r)
    discard (ofKind .dedent)
    return .select t.line e cases,
  explaining <| oneOf [
    do
      discard (word "match")
      discard (subject r)
      wantColon,
    do
      let t ← word "match"
      discard (subject r)
      wantBlock "'match' statement" t.line]]

def compoundStatement : Parser Stmt := oneOf [
  do ahead (oneOf [word "def", mark "@", word "async"]); functionStatement r,
  do ahead (word "if"); ifStatement r,
  do ahead (oneOf [word "class", mark "@"]); classStatement r,
  do ahead (oneOf [word "with", word "async"]); withStatement r,
  do ahead (oneOf [word "for", word "async"]); forStatement r,
  do ahead (word "try"); tryStatement r,
  do ahead (word "while"); whileStatement r,
  matchStatement r]

def statements : Parser (List Stmt) := do
  let ss ← many1 (oneOf [do return [← compoundStatement r], simpleStatements r])
  return ss.flatten

end NestShell.Code.Grammar

import NestShell.Code.Grammar.Rules
import NestShell.Code.Literal
/-!
Expressions. The choices of each rule stand in the order in which they are tried; choices behind
`explaining` match only what is wrong and say so.
-/
namespace NestShell.Code.Grammar

open Code.Parser

variable (r : Rules)

/-! ## Names, literals and brackets -/

/-- `* e` as an argument. -/
def starred : Parser Expr := oneOf [
  do
    let t ← mark "*"
    return .star t.line (← r.expression),
  do
    discard (mark "*")
    complain .invalidStar]

/-- `* e` with an operand that binds tighter. -/
def spread : Parser Expr := do
  let t ← mark "*"
  return .star t.line (← r.bitwiseOr)

def starExpression : Parser Expr := remembered 1 (oneOf [spread r, r.expression])

def starExpressions : Parser Expr := itemsOrTuple (starExpression r)

def starNamedExpression : Parser Expr := oneOf [spread r, r.namedExpression]

def starNamedExpressions : Parser (List Expr) := do
  let items ← separated "," (starNamedExpression r)
  optionalComma
  return items

def assignmentExpression : Parser Expr := do
  let t ← name
  discard (mark ":=")
  return .naming t.line t.text (← r.expression)

def yieldExpression : Parser Expr := do
  let t ← word "yield"
  let source : Parser Expr := do
    discard (word "from")
    r.expression
  match ← optional source with
  | some e => return .yield t.line true (some e)
  | none => return .yield t.line false (← optional (starExpressions r))

def keyValue : Parser Entry := do
  let k ← r.expression
  discard (mark ":")
  return .pair k (← r.expression)

def entry : Parser Entry :=
  oneOf [do discard (mark "**"); return .spread (← r.bitwiseOr), keyValue r]

/-! ## Comprehensions -/

/-- Whether the word is there that makes what follows wait for its values. -/
def asyncWord : Parser Bool := do return (← optional (word "async")).isSome

def badLoopTarget {α : Type} : Parser α := explaining do
  discard asyncWord
  discard (word "for")
  complainTarget .looped (← starExpressions r)

def clause : Parser Clause := do
  let start : Parser (Bool × Expr) := do
    let async ← asyncWord
    discard (word "for")
    let t ← r.targetList
    discard (word "in")
    return (async, t)
  match ← attempt? start with
  | some (async, t) => do
    let source ← r.disjunction
    let conditions ← many do discard (word "if"); r.disjunction
    return .mk async t source conditions
  | none => badLoopTarget r

def clauses : Parser (List Clause) := many1 (clause r)

def badComprehension {α : Type} : Parser α := explaining <| oneOf [
  do
    discard (oneOf [mark "[", mark "(", mark "\x7b"])
    let e ← starred r
    discard (clauses r)
    complainAt e.line .starredComprehension,
  do
    discard (oneOf [mark "[", mark "\x7b"])
    let e ← starNamedExpression r
    comma
    discard (starNamedExpressions r)
    discard (clauses r)
    complainAt e.line .comprehensionTarget,
  do
    discard (oneOf [mark "[", mark "\x7b"])
    let e ← starNamedExpression r
    comma
    discard (clauses r)
    complainAt e.line .comprehensionTarget]

def generator : Parser Expr := oneOf [
  do
    let t ← mark "("
    let e ← oneOf [assignmentExpression r, do let e ← r.expression; notAhead (mark ":="); return e]
    let cs ← clauses r
    discard (mark ")")
    return .gather t.line .generator e e cs,
  badComprehension r]

def listGathering : Parser Expr := oneOf [
  do
    let t ← mark "["
    let e ← r.namedExpression
    let cs ← clauses r
    discard (mark "]")
    return .gather t.line .list e e cs,
  badComprehension r]

def setGathering : Parser Expr := oneOf [
  do
    let t ← mark "\x7b"
    let e ← r.namedExpression
    let cs ← clauses r
    discard (mark "\x7d")
    return .gather t.line .set e e cs,
  badComprehension r]

def dictGathering : Parser Expr := oneOf [
  do
    let t ← mark "\x7b"
    let k ← r.expression
    discard (mark ":")
    let v ← r.expression
    let cs ← clauses r
    discard (mark "\x7d")
    return .gather t.line .dict k v cs,
  explaining do
    discard (mark "\x7b")
    let t ← mark "**"
    discard r.bitwiseOr
    discard (clauses r)
    discard (mark "\x7d")
    complainAt t.line .unpackingInDictComprehension]

/-! ## Displays -/

def listDisplay : Parser Expr := do
  let t ← mark "["
  let items ← optional (starNamedExpressions r)
  discard (mark "]")
  return .list t.line (items.getD [])

def tupleDisplay : Parser Expr := do
  let t ← mark "("
  let inner : Parser (List Expr) := do
    let first ← starNamedExpression r
    comma
    let more ← optional (starNamedExpressions r)
    return first :: more.getD []
  let items ← optional inner
  discard (mark ")")
  return .tuple t.line (items.getD [])

def group : Parser Expr := oneOf [
  do
    discard (mark "(")
    let e ← oneOf [yieldExpression r, r.namedExpression]
    discard (mark ")")
    return e,
  explaining <| oneOf [
    do
      discard (mark "(")
      let e ← starred r
      discard (mark ")")
      complainAt e.line .starredHere,
    do
      discard (mark "(")
      let t ← mark "**"
      discard r.expression
      discard (mark ")")
      complainAt t.line .doubleStarredHere]]

def setDisplay : Parser Expr := do
  let t ← mark "\x7b"
  let items ← starNamedExpressions r
  discard (mark "\x7d")
  return .set t.line items

def starredValue {α : Type} : Parser α := do
  discard r.expression
  discard (mark ":")
  let t ← mark "*"
  discard r.bitwiseOr
  complainAt t.line .starredDictValue

def missingValue {α : Type} : Parser α := do
  discard r.expression
  let t ← mark ":"
  ahead (oneOf [mark "\x7d", mark ","])
  complainAt t.line .missingDictValue

def badEntry {α : Type} : Parser α := oneOf [
  do
    let e ← r.expression
    notAhead (mark ":")
    complainAt e.line .missingDictColon,
  starredValue r,
  missingValue r]

def badEntries {α : Type} : Parser α := oneOf [
  do
    discard (separated "," (entry r))
    comma
    badEntry r,
  starredValue r,
  missingValue r]

def dictDisplay : Parser Expr := oneOf [
  do
    let t ← mark "\x7b"
    let entries ← optional do
      let es ← separated "," (entry r)
      optionalComma
      return es
    discard (mark "\x7d")
    return .dict t.line (entries.getD []),
  do
    discard (mark "\x7b")
    badEntries r]

/-! ## Strings -/

def formatFault {α : Type} (reason : String) : Parser α := complain (.formatted reason)

/-- Fixed text up to the next brace that is not written twice. -/
def fixedText (nested : Bool) : List Char → List Char → Except String (List Char × List Char)
  | acc, [] => .ok (acc.reverse, [])
  | acc, '\x7b' :: '\x7b' :: cs =>
    if nested then .ok (acc.reverse, '\x7b' :: '\x7b' :: cs) else fixedText nested ('\x7b' :: acc) cs
  | acc, '\x7d' :: '\x7d' :: cs =>
    if nested then .ok (acc.reverse, '\x7d' :: '\x7d' :: cs) else fixedText nested ('\x7d' :: acc) cs
  | acc, '\x7b' :: cs => .ok (acc.reverse, '\x7b' :: cs)
  | acc, '\x7d' :: cs =>
    if nested then .ok (acc.reverse, '\x7d' :: cs) else .error "single '\x7d' is not allowed"
  | acc, c :: cs => fixedText nested (c :: acc) cs

/-- What a character of an embedded expression does. -/
inductive EmbeddedStep where
  | stop
  | take (quote : Option Char) (brackets : List Char)
  | takePair
  | fault (c : Complaint)

/-- The effect of a character, given the open quote and brackets and whether `=` comes next. -/
def embeddedStep (quote : Option Char) (brackets : List Char) (c : Char) (equalNext : Bool) :
    EmbeddedStep :=
  if c == '\\' then .fault (.formattedPart "a backslash")
  else
    match quote, brackets with
    | some q, _ => .take (if c == q then none else some q) brackets
    | none, _ =>
      if c == '\x27' || c == '\x22' then .take (some c) brackets
      else if c == '(' || c == '[' || c == '\x7b' then .take none (c :: brackets)
      else if c == '#' then .fault (.formattedPart "'#'")
      else
        match brackets with
        | [] =>
          if equalNext && (c == '!' || c == '=' || c == '<' || c == '>') then .takePair
          else if c == '!' || c == ':' || c == '\x7d' || c == '=' then .stop
          else if c == ')' || c == ']' then .fault (.formatted (Complaint.unmatched c).message)
          else .take none []
        | o :: outer =>
          if c == ')' || c == ']' || c == '\x7d' then
            if Token.Lexer.closes o c then .take none outer
            else .fault (.formatted (Complaint.mismatched c o none).message)
          else .take none brackets

def brokenEmbedding (quote : Option Char) (brackets : List Char) : Complaint :=
  match quote, brackets with
  | some _, _ => .formatted "unterminated string"
  | none, c :: _ => .formatted (Complaint.unmatched c).message
  | none, [] => .formatted "expecting '\x7d'"

/-- The characters of an embedded expression, up to its end. -/
def embeddedText (acc : List Char) (quote : Option Char) (brackets : List Char) :
    List Char → Except Complaint (List Char × List Char)
  | [] => .error (brokenEmbedding quote brackets)
  | [c] =>
    match embeddedStep quote brackets c false with
    | .stop => .ok (acc.reverse, [c])
    | .fault e => .error e
    | .take q b => .error (brokenEmbedding q b)
    | .takePair => .error (brokenEmbedding none [])
  | c :: d :: cs =>
    match embeddedStep quote brackets c (d == '=') with
    | .stop => .ok (acc.reverse, c :: d :: cs)
    | .fault e => .error e
    | .take q b => embeddedText (c :: acc) q b (d :: cs)
    | .takePair => embeddedText (d :: c :: acc) none [] cs

def Ending.shift (n : Nat) : Ending → Ending
  | .complete => .complete
  | .hard f e => .hard { f with line := f.line + n } e
  | .soft c line e unclosed => .soft c (line + n) e (unclosed.map fun (c, l) => (c, l + n))

def formatted (f : SyntaxFault) : Complaint := .formatted f.complaint.message

/-- Reads an embedded expression as a text of its own that begins on a line; `next` follows it. -/
def embeddedExpression (line : Nat) (text : List Char) (next : Option Char) : Parser Expr := do
  if text.all Text.isBlank then
    match next with
    | some '\x7d' => formatFault "empty expression not allowed"
    | some c => formatFault ("expression required before '" ++ c.toString ++ "'")
    | none => formatFault "empty expression not allowed"
  else
    let (tokens, ending) := Token.scan .program ("(" ++ String.ofList text ++ ")")
    let tokens := tokens.map fun t => { t with line := t.line + line - 1 }
    let ending := Ending.shift (line - 1) ending
    match parse .program (do let e ← r.starExpressions; discard (ofKind .lineEnd); return e)
        tokens ending with
    | .ok e => return e
    | .error (.fault f) =>
      match ending with
      | .hard g _ => if f == g then throw (.fault f) else complainAt f.line (formatted f)
      | _ => complainAt f.line (formatted f)
    | .error .incomplete => formatFault "invalid syntax"
    | .error .outOfFuel => throw .outOfFuel

def lineEndsIn (cs : List Char) : Nat := cs.count '\n'

/-- The pieces of a formatted text that begins on a line; those of a nested format stop at a closing
brace. The last part is the text not read and its line. -/
def formattedPieces (raw : Bool) (depth : Nat) :
    Nat → Nat → List Char → Parser (List Piece × List Char × Nat)
  | 0, _, _ => throw .outOfFuel
  | fuel + 1, line, cs =>
    match fixedText (depth != 0) [] cs with
    | .error e => formatFault e
    | .ok (fixed, rest) => do
      let text ← match Literal.textBody raw fixed with
        | .ok t => pure t
        | .error c => complain c
      let front := if text.isEmpty then [] else [Piece.text text]
      let line := line + lineEndsIn fixed
      match rest with
      | [] => return (front, [], line)
      | '\x7b' :: rest =>
        if depth ≥ 2 then formatFault "expressions nested too deeply"
        match embeddedText [] none [] rest with
        | .error e => complain e
        | .ok (inner, rest) => do
          let e ← embeddedExpression r line inner rest.head?
          let line := line + lineEndsIn inner
          let (shown, rest) := match rest with
            | '=' :: more => (some (more.takeWhile (· == ' ')), more.dropWhile (· == ' '))
            | _ => (none, rest)
          let (conversion, rest) ← match rest with
            | '!' :: c :: more =>
              if c == 's' || c == 'r' || c == 'a' then pure (some c, more)
              else formatFault "invalid conversion character: expected 's', 'r', or 'a'"
            | _ => pure (none, rest)
          let (format, rest, line) ← match rest with
            | ':' :: more => formattedPieces raw (depth + 1) fuel line more
            | _ => pure ([], rest, line)
          match rest with
          | '\x7d' :: rest => do
            let label := match shown with
              | some blanks => [Piece.text (String.ofList (inner ++ '=' :: blanks))]
              | none => []
            let conversion := match shown, conversion, format with
              | some _, none, [] => some 'r'
              | _, c, _ => c
            let (more, rest, line) ← formattedPieces raw depth fuel line rest
            return (front ++ label ++ Piece.value e conversion format :: more, rest, line)
          | _ => formatFault "expecting '\x7d'"
      | rest => return (front, rest, line)

/-- One string token, as pieces or as bytes. -/
def stringToken (t : Token) : Parser (Sum (List Piece) (List UInt8)) := do
  let q := Literal.takeApart t.text
  if q.bytes then
    match Literal.bytesBody q with
    | .ok bs => return .inr bs
    | .error c => if c matches .bytesNotAscii then complainAt t.line c else complain c
  else if q.formatted then
    let (pieces, _) ← formattedPieces r q.raw 0 (q.body.length + 2) t.line q.body
    return .inl pieces
  else
    match Literal.textBody q.raw q.body with
    | .ok s => return .inl [.text s]
    | .error c => complain c

def fixedPieces : List Piece → Option String
  | [] => some ""
  | .text s :: ps => (s ++ ·) <$> fixedPieces ps
  | .value .. :: _ => none

/-- The parts of adjacent strings, which must be all bytes or all text. -/
def stringParts (line : Nat) (bytes : Bool) :
    List Token → Parser (List (Sum (List Piece) (List UInt8)))
  | [] => return []
  | t :: ts => do
    let q := Literal.takeApart t.text
    if q.formatted && bytes then complainAt line .mixedBytes
    let part ← stringToken r t
    if q.bytes != bytes then complainAt line .mixedBytes
    else return part :: (← stringParts line bytes ts)

/-- Adjacent strings are one. -/
def strings : Parser Expr := remembered 2 do
  let ts ← many1 (ofKind .string)
  let line := (ts.head?.map Token.line).getD 0
  let bytes := ts.head?.any fun t => (Literal.takeApart t.text).bytes
  let parts ← stringParts r line bytes ts
  if bytes then
    return .const line (.bytes (parts.flatMap fun p => match p with
      | .inr bs => bs
      | .inl _ => []))
  else
    let pieces := parts.flatMap fun p => match p with
      | .inl ps => ps
      | .inr _ => []
    if ts.any fun t => (Literal.takeApart t.text).formatted then
      return .formatted line pieces
    else return .const line (.str ((fixedPieces pieces).getD ""))

/-! ## Primaries -/

def number : Parser Expr := do
  let t ← ofKind .number
  let digits := t.text.toList.filter (· != '_')
  if digits.all Char.isDigit && digits.length > 4300 then
    complainAt t.line (.numberTooLong digits.length)
  else return .const t.line (Literal.number t.text)

def atom : Parser Expr := do
  let t ← peek
  match t.kind with
  | .name =>
    let constant (v : Value) : Parser Expr := do
      advance
      return .const t.line v
    match t.text with
    | "True" => constant (.bool true)
    | "False" => constant (.bool false)
    | "None" => constant .none
    | id => if reserved.contains id then mismatch else do advance; return .name t.line id
  | .string => strings r
  | .number => number
  | .mark =>
    match t.text with
    | "(" => oneOf [tupleDisplay r, group r, generator r]
    | "[" => oneOf [listDisplay r, listGathering r]
    | "\x7b" => oneOf [dictDisplay r, setDisplay r, dictGathering r, setGathering r]
    | "..." => do
      advance
      return .const t.line .ellipsis
    | _ => mismatch
  | _ => mismatch

/-- Arguments in the order in which they are evaluated: positions, then names. -/
def positionsFirst (as : List Argument) : List Argument :=
  let (positions, names) := as.partition Argument.isPosition
  positions ++ names

/-- What may follow a primary: an attribute, a generator or arguments in brackets, an index. -/
def extension (e : Expr) : Parser Expr := oneOf [
  do
    discard (mark ".")
    let t ← name
    return .attribute e.line e t.text t.line,
  do
    let g ← generator r
    return .call e.line e [.plain g],
  do
    discard (mark "(")
    let args ← optional r.arguments
    discard (mark ")")
    return .call e.line e (positionsFirst (args.getD [])),
  do
    discard (mark "[")
    let s ← r.slices
    discard (mark "]")
    return .index e.line e s]

def extend : Nat → Expr → Parser Expr
  | 0, _ => throw .outOfFuel
  | fuel + 1, e => do
    match ← attempt? (extension r e) with
    | some e => extend fuel e
    | none => return e

def primary : Parser Expr := remembered 3 do
  extend r ((← read).tokens.size + 2) (← r.atom)

def awaited : Parser Expr := oneOf [
  do
    let t ← word "await"
    return .await t.line (← primary r),
  primary r]

/-! ## Operators -/

def power : Parser Expr := do
  let left ← awaited r
  let tail : Parser Expr := do
    discard (mark "**")
    r.factor
  match ← attempt? tail with
  | some right => return .binary left.line .power left right
  | none => return left

def factor : Parser Expr := remembered 4 <| oneOf [
  do let t ← mark "+"; return .unary t.line .positive (← r.factor),
  do let t ← mark "-"; return .unary t.line .negative (← r.factor),
  do let t ← mark "~"; return .unary t.line .invert (← r.factor),
  power r]

/-- Operands joined from the left by operators of one rank. -/
def chain (ops : List (String × BinaryOp)) (operand : Parser Expr) : Parser Expr := do
  let tail : Parser (BinaryOp × Expr) := do
    let t ← token fun t => t.kind == .mark && (ops.lookup t.text).isSome
    let right ← operand
    return ((ops.lookup t.text).getD .add, right)
  let first ← operand
  let rest ← many tail
  return rest.foldl (fun left (op, right) => .binary left.line op left right) first

def term : Parser Expr :=
  chain [("*", .multiply), ("/", .divide), ("//", .floorDivide), ("%", .modulo), ("@", .matrix)]
    (factor r)

def sum : Parser Expr := chain [("+", .add), ("-", .subtract)] (term r)

def shift : Parser Expr := chain [("<<", .shiftLeft), (">>", .shiftRight)] (sum r)

def bitwiseAnd : Parser Expr := chain [("&", .bitAnd)] (shift r)

def bitwiseXor : Parser Expr := chain [("^", .bitXor)] (bitwiseAnd r)

def bitwiseOr : Parser Expr := remembered 5 (chain [("|", .bitOr)] (bitwiseXor r))

def comparisonOp : Parser CompareOp := oneOf [
  do discard (mark "=="); return .equal,
  do discard (mark "!="); return .unequal,
  do discard (mark "<="); return .lessEqual,
  do discard (mark "<"); return .less,
  do discard (mark ">="); return .greaterEqual,
  do discard (mark ">"); return .greater,
  do discard (word "not"); discard (word "in"); return .notMember,
  do discard (word "in"); return .member,
  do discard (word "is"); discard (word "not"); return .isNot,
  do discard (word "is"); return .is]

def comparison : Parser Expr := do
  let first ← bitwiseOr r
  let rest ← many do
    let op ← comparisonOp
    return Comparison.mk op (← bitwiseOr r)
  if rest.isEmpty then return first else return .compare first.line first rest

def inversion : Parser Expr := remembered 6 <| oneOf [
  do let t ← word "not"; return .unary t.line .not (← r.inversion),
  comparison r]

def conjunction : Parser Expr := remembered 7 do
  let first ← inversion r
  let rest ← many do discard (word "and"); inversion r
  if rest.isEmpty then return first else return .every first.line (first :: rest)

def disjunction : Parser Expr := remembered 8 do
  let first ← conjunction r
  let rest ← many do discard (word "or"); conjunction r
  if rest.isEmpty then return first else return .either first.line (first :: rest)

/-! ## Function arguments -/

def plainArgument : Parser Expr :=
  oneOf [assignmentExpression r, do let e ← r.expression; notAhead (mark ":="); return e]

def maybeEqual {α : Type} : Parser α := do
  let t ← name
  discard (mark "=")
  discard r.expression
  discard (clauses r)
  complainAt t.line .maybeEqual

def badKeyword {α : Type} : Parser α := explaining <| oneOf [
  do
    let t ← oneOf [word "True", word "False", word "None"]
    discard (mark "=")
    complainAt t.line (.cannotAssign t.text),
  maybeEqual r,
  do
    notAhead do discard name; mark "="
    let e ← r.expression
    discard (mark "=")
    complainAt e.line .argumentAssignment]

def keyword : Parser Argument := do
  let t ← name
  discard (mark "=")
  return .keyword t.line t.text (← r.expression)

def starArgument : Parser Argument := do
  match ← starred r with
  | .star _ e => return .star e
  | e => return .plain e

def keywordOrStar : Parser Argument := oneOf [badKeyword r, keyword r, starArgument r]

def keywordOrDoubleStar : Parser Argument := oneOf [
  badKeyword r,
  keyword r,
  do discard (mark "**"); return .doubleStar (← r.expression)]

def keywordArguments : Parser (List Argument) := oneOf [
  do
    let a ← separated "," (keywordOrStar r)
    comma
    let b ← separated "," (keywordOrDoubleStar r)
    return a ++ b,
  separated "," (keywordOrStar r),
  separated "," (keywordOrDoubleStar r)]

def plainOrStar : Parser Argument := oneOf [
  starArgument r,
  do
    let e ← plainArgument r
    notAhead (mark "=")
    return .plain e]

def args : Parser (List Argument) := oneOf [
  do
    let a ← separated "," (plainOrStar r)
    let b ← optional do comma; keywordArguments r
    return a ++ b.getD [],
  keywordArguments r]

def Argument.line : Argument → Nat
  | .plain e | .star e | .doubleStar e => e.line
  | .keyword l _ _ => l

/-- A generator after other positional arguments must stand in brackets; alone it need not. -/
def unbracketed {α : Type} (as : List Argument) : Parser α :=
  let positional := as.filter Argument.isPosition
  if positional.length ≤ 1 then mismatch
  else complainAt ((positional.getLast?.map Argument.line).getD 0) .unbracketedGenerator

def badArguments {α : Type} : Parser α := explaining <| oneOf [
  do
    discard (oneOf [
      do
        discard (separated "," (plainOrStar r))
        comma
        keywordArguments r,
      keywordArguments r])
    let t ← mark ","
    discard (separated "," do
      discard (starred r)
      notAhead (mark "="))
    complainAt t.line .iterableAfterUnpacking,
  do
    let e ← r.expression
    discard (clauses r)
    comma
    discard (optional (oneOf [discard (args r), do discard r.expression; discard (clauses r)]))
    complainAt e.line .unbracketedGenerator,
  maybeEqual r,
  do
    let as ← args r
    discard (clauses r)
    unbracketed as,
  do
    discard (args r)
    comma
    let e ← r.expression
    discard (clauses r)
    complainAt e.line .unbracketedGenerator,
  do
    let as ← args r
    comma
    discard (args r)
    complain (if as.any (· matches .doubleStar _) then .positionalAfterUnpacking
      else .positionalAfterKeyword)]

def arguments : Parser (List Argument) := oneOf [
  do
    let as ← args r
    optionalComma
    ahead (mark ")")
    return as,
  badArguments r]

/-! ## Indices -/

def slice : Parser Expr := oneOf [
  do
    let low ← optional r.expression
    let t ← mark ":"
    let high ← optional r.expression
    let step ← optional do discard (mark ":"); optional r.expression
    return .slice ((low.map Expr.line).getD t.line) low high (step.getD none),
  r.namedExpression]

def slices : Parser Expr := oneOf [
  do
    let s ← slice r
    notAhead comma
    return s,
  do
    let first ← oneOf [slice r, starred r]
    let more ← many do comma; oneOf [slice r, starred r]
    optionalComma
    return .tuple first.line (first :: more)]

/-! ## Parameters -/

/-- What differs between the parameters of a function and those of a lambda. -/
structure ParamStyle where
  owner : String
  close : String
  annotated : Bool

def functionStyle : ParamStyle := ⟨"Function", ")", true⟩

def lambdaStyle : ParamStyle := ⟨"Lambda expression", ":", false⟩

variable (s : ParamStyle)

def param : Parser Param := do
  let t ← name
  let hint ← if s.annotated then optional do discard (mark ":"); r.expression else pure none
  return .mk t.line .regular t.text hint none

/-- A parameter ends at a comma or before the end of the list. -/
def paramEnd : Parser Unit := oneOf [comma, ahead (mark s.close)]

def plainParam : Parser Param := do
  let p ← param r s
  paramEnd s
  return p

/-- The parameter that takes the remaining positions; its annotation may be starred. -/
def starredParam : Parser Param := do
  let t ← name
  discard (mark ":")
  let a ← starExpression r
  paramEnd s
  return .mk t.line .regular t.text (some a) none

def paramDefault : Parser Expr := oneOf [
  do discard (mark "="); r.expression,
  explaining do
    discard (mark "=")
    ahead (oneOf [mark s.close, mark ","])
    complain .missingDefault]

def paramWithDefault : Parser Param := do
  let p ← param r s
  let e ← paramDefault r s
  paramEnd s
  return p.withDefault (some e)

def paramMaybeDefault : Parser Param := do
  let p ← param r s
  let e ← optional (paramDefault r s)
  paramEnd s
  return p.withDefault e

def slashEnd : Parser Unit := do
  discard (mark "/")
  paramEnd s

def plainThenSlash : Parser (List Param) := do
  let ps ← many1 (plainParam r s)
  slashEnd s
  return ps.map (Param.ofKind .positional)

def defaultThenSlash : Parser (List Param) := do
  let ps ← many (plainParam r s)
  let ds ← many1 (paramWithDefault r s)
  slashEnd s
  return (ps ++ ds).map (Param.ofKind .positional)

def keywordRest : Parser (List Param) := oneOf [
  explaining <| oneOf [
    do
      discard (mark "**")
      discard (param r s)
      let t ← mark "="
      complainAt t.line .doubleStarDefault,
    do
      discard (mark "**")
      discard (param r s)
      comma
      let here := (← peek).line
      discard (oneOf [
        discard (param r s),
        discard (oneOf [mark "*", mark "**", mark "/"])])
      complainAt here .afterDoubleStar],
  do
    discard (mark "**")
    let p ← plainParam r s
    return [p.ofKind .keywordRest]]

def badStar {α : Type} : Parser α := explaining <| oneOf [
  do
    let t ← mark "*"
    discard (oneOf [mark s.close, do comma; oneOf [mark s.close, mark "**"]])
    complainAt t.line .nameAfterStar,
  do
    discard (mark "*")
    discard (param r s)
    let t ← mark "="
    complainAt t.line .starDefault,
  do
    discard (mark "*")
    discard (oneOf [discard (plainParam r s), comma])
    discard (many (paramMaybeDefault r s))
    let t ← mark "*"
    discard (oneOf [discard (plainParam r s), comma])
    complainAt t.line .starOnce]

def starParams : Parser (List Param) := oneOf [
  badStar r s,
  do
    discard (mark "*")
    let p ← if s.annotated then oneOf [plainParam r s, starredParam r s] else plainParam r s
    let ks ← many (paramMaybeDefault r s)
    let rest ← optional (keywordRest r s)
    return p.ofKind .rest :: ks.map (Param.ofKind .keyword) ++ rest.getD [],
  do
    discard (mark "*")
    comma
    let ks ← many1 (paramMaybeDefault r s)
    let rest ← optional (keywordRest r s)
    return ks.map (Param.ofKind .keyword) ++ rest.getD [],
  keywordRest r s]

def paramList : Parser (List Param) := oneOf [
  do
    let a ← plainThenSlash r s
    let b ← many (plainParam r s)
    let c ← many (paramWithDefault r s)
    let d ← optional (starParams r s)
    return a ++ b ++ c ++ d.getD [],
  do
    let a ← defaultThenSlash r s
    let c ← many (paramWithDefault r s)
    let d ← optional (starParams r s)
    return a ++ c ++ d.getD [],
  do
    let b ← many1 (plainParam r s)
    let c ← many (paramWithDefault r s)
    let d ← optional (starParams r s)
    return b ++ c ++ d.getD [],
  do
    let c ← many1 (paramWithDefault r s)
    let d ← optional (starParams r s)
    return c ++ d.getD [],
  starParams r s]

def badParams {α : Type} : Parser α := explaining <| oneOf [
  do
    discard (many (plainParam r s))
    discard (oneOf [discard (defaultThenSlash r s), discard (many1 (paramWithDefault r s))])
    let here := (← peek).line
    discard (plainParam r s)
    complainAt here .defaultOrder,
  do
    discard (many (plainParam r s))
    let t ← mark "("
    discard (separated "," (param r s))
    optionalComma
    discard (mark ")")
    complainAt t.line (.bracketedParameters s.owner),
  do
    let t ← mark "/"
    comma
    complainAt t.line .slashFirst,
  do
    discard (oneOf [plainThenSlash r s, defaultThenSlash r s])
    discard (many (paramMaybeDefault r s))
    let t ← mark "/"
    complainAt t.line .slashOnce,
  do
    discard (optional (oneOf [plainThenSlash r s, defaultThenSlash r s]))
    discard (many (paramMaybeDefault r s))
    discard (mark "*")
    discard (oneOf [comma, discard (plainParam r s)])
    discard (many (paramMaybeDefault r s))
    let t ← mark "/"
    complainAt t.line .slashBeforeStar,
  do
    discard (many1 (paramMaybeDefault r s))
    discard (mark "/")
    let t ← mark "*"
    complainAt t.line .commaBeforeStar]

def params : Parser (List Param) := oneOf [badParams r s, paramList r s]

def lambda : Parser Expr := do
  let t ← word "lambda"
  let ps ← optional (params r lambdaStyle)
  discard (mark ":")
  return .lambda t.line (ps.getD []) (← r.expression)

/-! ## Whole expressions -/

def conditional : Parser Expr := do
  let yes ← disjunction r
  discard (word "if")
  let test ← disjunction r
  discard (word "else")
  return .choose yes.line test yes (← r.expression)

/-- Names that begin a word with a meaning of its own only in places. -/
def isSoft (id : String) : Bool := ["_", "case", "match"].any (Text.startsWith · id)

/-- Words that began statements in older dialects. -/
def isOldStatement : Expr → Bool
  | .name _ id => id == "print" || id == "exec"
  | _ => false

def badExpression {α : Type} : Parser α := explaining <| oneOf [
  do
    notAhead (oneOf [
      do discard name; ofKind .string,
      token fun t => t.kind == .name && isSoft t.text])
    let a ← disjunction r
    let before := (← get).position
    discard (withoutExplaining (oneOf [conditional r, disjunction r, lambda r]))
    let depth := ((← read).tokens[(← get).position - 1]?.map Token.depth).getD 0
    if isOldStatement a || depth == 0 || before == 0 then mismatch
    else complainAt a.line .forgottenComma,
  do
    let a ← disjunction r
    discard (word "if")
    discard (disjunction r)
    notAhead (oneOf [word "else", mark ":"])
    complainAt a.line .expectedElse]

def oldStatement {α : Type} : Parser α := explaining do
  let t ← name
  notAhead (mark "(")
  discard (starExpressions r)
  if isOldStatement (.name t.line t.text) then complainAt t.line (.missingCallBrackets t.text)
  else mismatch

def expression : Parser Expr := remembered 9 <| oneOf [
  badExpression r,
  oldStatement r,
  conditional r,
  disjunction r,
  lambda r]

def badNamedExpression : Parser Expr := remembered 10 <| explaining <| oneOf [
  do
    let e ← r.expression
    discard (mark ":=")
    discard r.expression
    complainAt e.line (.cannotName e.description),
  do
    let t ← name
    discard (mark "=")
    discard (bitwiseOr r)
    notAhead (oneOf [mark "=", mark ":="])
    complainAt t.line .maybeEqual,
  do
    notAhead (oneOf [
      discard (oneOf [listDisplay r, tupleDisplay r, generator r]),
      discard (oneOf [word "True", word "None", word "False"])])
    let e ← bitwiseOr r
    discard (mark "=")
    discard (bitwiseOr r)
    notAhead (oneOf [mark "=", mark ":="])
    complainAt e.line (.equalHere e.description)]

def namedExpression : Parser Expr := oneOf [
  assignmentExpression r,
  badNamedExpression r,
  do
    let e ← r.expression
    notAhead (mark ":=")
    return e]

end NestShell.Code.Grammar

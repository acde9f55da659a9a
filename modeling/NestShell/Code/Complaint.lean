/-!
Why a source text is no program. Each complaint has one wording; some are about indentation and
form classes of their own.
-/
namespace NestShell.Code

inductive Complaint where
  | invalidSyntax
  | incompleteInput
  | severalStatements
  -- the text does not split into tokens
  | unmatched (close : Char)
  | mismatched (close opening : Char) (line : Option Nat)
  | neverClosed (opening : Char)
  | tooManyBrackets
  | unterminatedString (line : Nat)
  | unterminatedTriple (line : Nat)
  | invalidCharacter (c : Char)
  | unprintableCharacter (c : Char)
  | invalidLiteral (kind : String)
  | invalidDigit (digit : Char) (kind : String)
  | leadingZeros
  | afterContinuation
  | unexpectedEnd
  | bytesNotAscii
  | mixedBytes
  | badEscape (kind reason : String)
  | numberTooLong (digits : Nat)
  -- indentation
  | unexpectedIndent
  | unexpectedUnindent
  | unindentMismatch
  | inconsistentTabs
  | tooDeep
  | expectedBlock (after : Option (String × Nat))
  -- the tokens form no statement
  | expected (token : String)
  | forgottenComma
  | expectedElse
  | maybeEqual
  | equalHere (what : String)
  | cannotAssign (what : String)
  | cannotDelete (what : String)
  | cannotName (what : String)
  | illegalAugmented (what : String)
  | annotatedTarget (what : String)
  | illegalAnnotated
  | assignToYield
  | missingCallBrackets (name : String)
  | argumentAssignment
  | unbracketedGenerator
  | positionalAfterKeyword
  | positionalAfterUnpacking
  | iterableAfterUnpacking
  | defaultOrder
  | missingDefault
  | bracketedParameters (owner : String)
  | slashFirst
  | slashOnce
  | slashBeforeStar
  | commaBeforeStar
  | nameAfterStar
  | starDefault
  | starOnce
  | doubleStarDefault
  | afterDoubleStar
  | starredComprehension
  | comprehensionTarget
  | unpackingInDictComprehension
  | invalidStar
  | starredHere
  | doubleStarredHere
  | starredDictValue
  | missingDictValue
  | missingDictColon
  | trailingComma
  | missingHandler
  | bracketedHandlers
  | missingKinds
  | mixedHandlers
  | underscoreTarget
  | shapeTarget
  | shapeAfterField
  | realWanted
  | imaginaryWanted
  | formatted (reason : String)
  | formattedPart (what : String)
  -- the names of a program
  | unknownFeature (name : String)
  | refusedFeature
  | lateFeature
  | duplicateArgument (name : String)
  | declaredParameter (name kind : String)
  | declaredAfterUse (name kind : String)
  | declaredAnnotated (name kind : String)
  | declaredAfterAssignment (name kind : String)
  | allInside
  | nonlocalAtTop
  | unboundNonlocal (name : String)
  | nonlocalAndGlobal (name : String)
  | withinHint (what : String)
  | yieldInside (what : String)
  | namingInSource
  | namingInClass
  | namingRebinds (name : String)
  | loopRebinds (name : String)
  -- the statements form no program
  | outsideFunction (word : String)
  | outsideAsync (what : String)
  | delegationInAsync
  | asyncGathering
  | valueInAsyncGenerator
  | breakOutsideLoop
  | continueOutsideLoop
  | leavesGroup
  | nestedBlocks
  | repeatedKeyword (name : String)
  | starredExpression
  | starredTarget
  | severalStarred
  | manyBeforeStar
  | handlerOrder
  -- the shapes of a selection cannot be told apart
  | captureHides (name : String)
  | wildcardHides
  | boundTwice (name : String)
  | differentNames
  | severalRests
  | manyBeforeRest
  | formattedShape
  | formattedKey
  | repeatedKey (shown : String)
  | repeatedField (name : String)
  deriving DecidableEq, Repr

def hexText (width n : Nat) : String :=
  let ds := (Nat.toDigits 16 n).map Char.toUpper
  String.ofList (List.replicate (width - ds.length) '0' ++ ds)

def quoteText (s : String) : String := "'" ++ s ++ "'"

/-- The start of a text that takes at most `room` bytes; a character cut through leaves a mark. -/
def cutTo : Nat → List Char → List Char
  | _, [] => []
  | room, c :: cs =>
    if c.utf8Size ≤ room then c :: cutTo (room - c.utf8Size) cs
    else if room == 0 then []
    else ['\uFFFD']

/-- A quoted text of which messages show a limited number of bytes. -/
def quoteStart (room : Nat) (s : String) : String := quoteText (String.ofList (cutTo room s.toList))

/-- The wording of each complaint. -/
def Complaint.message : Complaint → String
  | .invalidSyntax => "invalid syntax"
  | .incompleteInput => "incomplete input"
  | .severalStatements => "multiple statements found while compiling a single statement"
  | .unmatched c => "unmatched " ++ quoteText c.toString
  | .mismatched c o none =>
    "closing parenthesis " ++ quoteText c.toString ++ " does not match opening parenthesis " ++
      quoteText o.toString
  | .mismatched c o (some line) =>
    "closing parenthesis " ++ quoteText c.toString ++ " does not match opening parenthesis " ++
      quoteText o.toString ++ " on line " ++ toString line
  | .neverClosed c => quoteText c.toString ++ " was never closed"
  | .tooManyBrackets => "too many nested parentheses"
  | .unterminatedString n => "unterminated string literal (detected at line " ++ toString n ++ ")"
  | .unterminatedTriple n =>
    "unterminated triple-quoted string literal (detected at line " ++ toString n ++ ")"
  | .invalidCharacter c =>
    "invalid character " ++ quoteText c.toString ++ " (U+" ++ hexText 4 c.toNat ++ ")"
  | .unprintableCharacter c => "invalid non-printable character U+" ++ hexText 4 c.toNat
  | .invalidLiteral kind => "invalid " ++ kind ++ " literal"
  | .invalidDigit d kind => "invalid digit " ++ quoteText d.toString ++ " in " ++ kind ++ " literal"
  | .leadingZeros =>
    "leading zeros in decimal integer literals are not permitted; use an 0o prefix for octal " ++
      "integers"
  | .afterContinuation => "unexpected character after line continuation character"
  | .unexpectedEnd => "unexpected EOF while parsing"
  | .bytesNotAscii => "bytes can only contain ASCII literal characters"
  | .mixedBytes => "cannot mix bytes and nonbytes literals"
  | .badEscape kind reason => "(" ++ kind ++ ") " ++ reason
  | .numberTooLong n =>
    "Exceeds the limit (4300 digits) for integer string conversion: value has " ++ toString n ++
      " digits; use sys.set_int_max_str_digits() to increase the limit - Consider hexadecimal " ++
      "for huge integer literals to avoid decimal conversion limits."
  | .unexpectedIndent => "unexpected indent"
  | .unexpectedUnindent => "unexpected unindent"
  | .unindentMismatch => "unindent does not match any outer indentation level"
  | .inconsistentTabs => "inconsistent use of tabs and spaces in indentation"
  | .tooDeep => "too many levels of indentation"
  | .expectedBlock none => "expected an indented block"
  | .expectedBlock (some (what, line)) =>
    "expected an indented block after " ++ what ++ " on line " ++ toString line
  | .expected token => "expected " ++ quoteText token
  | .forgottenComma => "invalid syntax. Perhaps you forgot a comma?"
  | .expectedElse => "expected 'else' after 'if' expression"
  | .maybeEqual => "invalid syntax. Maybe you meant '==' or ':=' instead of '='?"
  | .equalHere what =>
    "cannot assign to " ++ what ++ " here. Maybe you meant '==' instead of '='?"
  | .cannotAssign what => "cannot assign to " ++ what
  | .cannotDelete what => "cannot delete " ++ what
  | .cannotName what => "cannot use assignment expressions with " ++ what
  | .illegalAugmented what => quoteText what ++ " is an illegal expression for augmented assignment"
  | .annotatedTarget what => "only single target (not " ++ what ++ ") can be annotated"
  | .illegalAnnotated => "illegal target for annotation"
  | .assignToYield => "assignment to yield expression not possible"
  | .missingCallBrackets name =>
    "Missing parentheses in call to " ++ quoteText name ++ ". Did you mean " ++ name ++ "(...)?"
  | .argumentAssignment => "expression cannot contain assignment, perhaps you meant \"==\"?"
  | .unbracketedGenerator => "Generator expression must be parenthesized"
  | .positionalAfterKeyword => "positional argument follows keyword argument"
  | .positionalAfterUnpacking => "positional argument follows keyword argument unpacking"
  | .iterableAfterUnpacking => "iterable argument unpacking follows keyword argument unpacking"
  | .defaultOrder => "non-default argument follows default argument"
  | .missingDefault => "expected default value expression"
  | .bracketedParameters owner => owner ++ " parameters cannot be parenthesized"
  | .slashFirst => "at least one argument must precede /"
  | .slashOnce => "/ may appear only once"
  | .slashBeforeStar => "/ must be ahead of *"
  | .commaBeforeStar => "expected comma between / and *"
  | .nameAfterStar => "named arguments must follow bare *"
  | .starDefault => "var-positional argument cannot have default value"
  | .starOnce => "* argument may appear only once"
  | .doubleStarDefault => "var-keyword argument cannot have default value"
  | .afterDoubleStar => "arguments cannot follow var-keyword argument"
  | .starredComprehension => "iterable unpacking cannot be used in comprehension"
  | .comprehensionTarget => "did you forget parentheses around the comprehension target?"
  | .unpackingInDictComprehension => "dict unpacking cannot be used in dict comprehension"
  | .invalidStar => "Invalid star expression"
  | .starredHere => "cannot use starred expression here"
  | .doubleStarredHere => "cannot use double starred expression here"
  | .starredDictValue => "cannot use a starred expression in a dictionary value"
  | .missingDictValue => "expression expected after dictionary key and ':'"
  | .missingDictColon => "':' expected after dictionary key"
  | .trailingComma => "trailing comma not allowed without surrounding parentheses"
  | .missingHandler => "expected 'except' or 'finally' block"
  | .bracketedHandlers => "multiple exception types must be parenthesized"
  | .missingKinds => "expected one or more exception types"
  | .mixedHandlers => "cannot have both 'except' and 'except*' on the same 'try'"
  | .underscoreTarget => "cannot use '_' as a target"
  | .shapeTarget => "invalid pattern target"
  | .shapeAfterField => "positional patterns follow keyword patterns"
  | .realWanted => "real number required in complex literal"
  | .imaginaryWanted => "imaginary number required in complex literal"
  | .formatted reason => "f-string: " ++ reason
  | .formattedPart what => "f-string expression part cannot include " ++ what
  | .unknownFeature name =>
    "future feature " ++ String.ofList (cutTo 100 name.toList) ++ " is not defined"
  | .refusedFeature => "not a chance"
  | .lateFeature => "from __future__ imports must occur at the beginning of the file"
  | .duplicateArgument name =>
    "duplicate argument " ++ quoteText name ++ " in function definition"
  | .declaredParameter name kind => "name " ++ quoteText name ++ " is parameter and " ++ kind
  | .declaredAfterUse name kind =>
    "name " ++ quoteText name ++ " is used prior to " ++ kind ++ " declaration"
  | .declaredAnnotated name kind => "annotated name " ++ quoteText name ++ " can't be " ++ kind
  | .declaredAfterAssignment name kind =>
    "name " ++ quoteText name ++ " is assigned to before " ++ kind ++ " declaration"
  | .allInside => "import * only allowed at module level"
  | .nonlocalAtTop => "nonlocal declaration not allowed at module level"
  | .unboundNonlocal name => "no binding for nonlocal " ++ quoteText name ++ " found"
  | .nonlocalAndGlobal name => "name " ++ quoteText name ++ " is nonlocal and global"
  | .withinHint what => quoteText what ++ " can not be used within an annotation"
  | .yieldInside what => "'yield' inside " ++ what
  | .namingInSource =>
    "assignment expression cannot be used in a comprehension iterable expression"
  | .namingInClass =>
    "assignment expression within a comprehension cannot be used in a class body"
  | .namingRebinds name =>
    "assignment expression cannot rebind comprehension iteration variable " ++ quoteText name
  | .loopRebinds name =>
    "comprehension inner loop cannot rebind assignment expression target " ++ quoteText name
  | .outsideFunction word => quoteText word ++ " outside function"
  | .outsideAsync what => quoteText what ++ " outside async function"
  | .delegationInAsync => "'yield from' inside async function"
  | .asyncGathering => "asynchronous comprehension outside of an asynchronous function"
  | .valueInAsyncGenerator => "'return' with value in async generator"
  | .breakOutsideLoop => "'break' outside loop"
  | .continueOutsideLoop => "'continue' not properly in loop"
  | .leavesGroup => "'break', 'continue' and 'return' cannot appear in an except* block"
  | .nestedBlocks => "too many statically nested blocks"
  | .repeatedKeyword name => "keyword argument repeated: " ++ name
  | .starredExpression => "can't use starred expression here"
  | .starredTarget => "starred assignment target must be in a list or tuple"
  | .severalStarred => "multiple starred expressions in assignment"
  | .manyBeforeStar => "too many expressions in star-unpacking assignment"
  | .handlerOrder => "default 'except:' must be last"
  | .captureHides name =>
    "name capture " ++ quoteText name ++ " makes remaining patterns unreachable"
  | .wildcardHides => "wildcard makes remaining patterns unreachable"
  | .boundTwice name => "multiple assignments to name " ++ quoteText name ++ " in pattern"
  | .differentNames => "alternative patterns bind different names"
  | .severalRests => "multiple starred names in sequence pattern"
  | .manyBeforeRest => "too many expressions in star-unpacking sequence pattern"
  | .formattedShape => "patterns may only match literals and attribute lookups"
  | .formattedKey => "mapping pattern keys may only match literals and attribute lookups"
  | .repeatedKey shown => "mapping pattern checks duplicate key (" ++ shown ++ ")"
  | .repeatedField name => "attribute name repeated in class pattern: " ++ name

/-- The class of error a complaint is reported as. -/
def Complaint.className : Complaint → String
  | .unexpectedIndent | .unexpectedUnindent | .unindentMismatch | .tooDeep
  | .expectedBlock _ => "IndentationError"
  | .inconsistentTabs => "TabError"
  | _ => "SyntaxError"

/-- A complaint and the line it is about; one about no line of the text has a line below zero. -/
structure SyntaxFault where
  complaint : Complaint
  line : Int
  deriving DecidableEq, Repr

end NestShell.Code

import NestShell.Code.Argument
import NestShell.Text.Lines
import NestShell.Text.Search
import NestShell.Text.Utf8
/-!
The methods of texts and of bytes.
-/
namespace NestShell.Code.Run

open NestShell.Text

variable (engine : Engine)

def noSubstring {α : Type} : Run α := valueError "substring not found"

/-- The part of a text that bounds select, where it starts, and whether the bounds are in order. -/
def partOf (s : String) (bounds : List Value) : Run (List Char × Nat × Bool) := do
  let cs := s.toList
  let (lo, hi, inOrder) ← asBounds engine cs.length bounds
  return ((cs.take hi).drop lo, lo, inOrder && lo ≤ cs.length)

/-- Searches a text for another, within bounds. -/
def search (s name : String) (fromEnd : Bool) (args : List Value) : Run (Option Nat) := do
  checkTaken name 1 3 args
  let part ← asText (args.getD 0 .none) fun t => "must be str, not " ++ t
  let (cs, start, inOrder) ← partOf engine s (args.drop 1)
  if !inOrder then return none
  else
    let found := if fromEnd then findLast? part.toList cs else findIn? part.toList cs
    return found.map (· + start)

def countOf (s : String) (args : List Value) : Run Nat := do
  checkTaken "count" 1 3 args
  let part ← asText (args.getD 0 .none) fun t => "must be str, not " ++ t
  let (cs, _, inOrder) ← partOf engine s (args.drop 1)
  return if inOrder then occurrences part.toList cs else 0

/-- Whether a text has one of the given texts at an end. -/
def atEnd (s name : String) (test : List Char → List Char → Bool) (args : List Value) :
    Run Bool := do
  checkTaken name 1 3 args
  let (cs, _, inOrder) ← partOf engine s (args.drop 1)
  match args.getD 0 .none with
  | .str p => return inOrder && test p.toList cs
  | .tuple ps =>
    let texts ← ps.mapM fun p => asText p fun t =>
      "tuple for " ++ name ++ " must only contain str, not " ++ t
    return inOrder && texts.any fun p => test p.toList cs
  | v => typeError (name ++ " first arg must be str or a tuple of str, not " ++ (← typeName v))

/-- The separator and the limit of a cut. -/
def cutArguments (name : String) (args : List Value) (keywords : List (String × Value)) :
    Run (Option String × Option Nat) := do
  let values ← named name 0 ["sep", "maxsplit"] args keywords
  let sep ← match (values.getD 0 none).getD .none with
    | .none => pure none
    | .str "" => valueError "empty separator"
    | .str s => pure (some s)
    | v => typeError ("must be str or None, not " ++ (← typeName v))
  let limit ← match values.getD 1 none with
    | none => pure none
    | some v => do
      let n ← asInt engine v
      pure (if n < 0 then none else some n.toNat)
  return (sep, limit)

def textList (parts : List (List Char)) : Run Value :=
  newList (parts.map fun p => .str (String.ofList p))

/-- A width and a fill character. -/
def padArguments (name : String) (args : List Value) : Run (Nat × Char) := do
  checkCount name 1 2 args
  let width ← asCount engine (args.getD 0 .none)
  match (args[1]? : Option Value) with
  | none => return (width, ' ')
  | some (.str s) =>
    match s.toList with
    | [c] => return (width, c)
    | _ => typeError "The fill character must be exactly one character long"
  | some v =>
    typeError ("The fill character must be a unicode character, not " ++ (← typeName v))

def trimArguments (name : String) (args : List Value) : Run (Char → Bool) := do
  checkCount name 0 1 args
  match args.getD 0 .none with
  | .none => return isBlank
  | .str s => return s.toList.contains
  | _ => typeError (name ++ " arg must be None or str")

/-- The pieces before, of and after the separator. -/
def partitioned (s title : String) (fromEnd : Bool) (args : List Value)
    (keywords : List (String × Value)) : Run Value := do
  let sep ← asText (← single title args keywords) fun t => "must be str, not " ++ t
  if sep.isEmpty then valueError "empty separator"
  let cs := s.toList
  let found := if fromEnd then findLast? sep.toList cs else findIn? sep.toList cs
  match found with
  | some i =>
    return .tuple [.str (String.ofList (cs.take i)), .str sep,
      .str (String.ofList (cs.drop (i + sep.length)))]
  | none =>
    return .tuple (if fromEnd then [.str "", .str "", .str s] else [.str s, .str "", .str ""])

def joinTexts (s : String) (v : Value) : Run Value := do
  let items ← catchingOnly "TypeError" (engine.elements v) fun _ =>
    typeError "can only join an iterable"
  let texts ← items.zipIdx.mapM fun (item, i) => asText item fun t =>
    "sequence item " ++ toString i ++ ": expected str instance, " ++ t ++ " found"
  return .str (s.intercalate texts)

def encodingName (s : String) : String :=
  String.ofList ((Text.lower s).toList.filter fun c => c != '-' && c != '_')

/-- Characters up to `limit` as single bytes. -/
def narrowBytes (codec : String) (limit : Nat) (errors s : String) : Run Value := do
  match s.toList.findIdx? fun c => c.toNat ≥ limit with
  | none => return .bytes (s.toList.map fun c => UInt8.ofNat c.toNat)
  | some i =>
    if errors == "ignore" then
      return .bytes ((s.toList.filter fun c => c.toNat < limit).map fun c => UInt8.ofNat c.toNat)
    else if errors == "replace" then
      return .bytes (s.toList.map fun c => if c.toNat < limit then UInt8.ofNat c.toNat else 63)
    else if errors != "strict" then
      raise "LookupError" ("unknown error handler name " ++ quoteText errors)
    else
      let reason := "ordinal not in range(" ++ toString limit ++ ")"
      throwValue (.type "UnicodeEncodeError")
        [.str codec, .str s, .int i, .int (i + 1), .str reason]
        (Names.ofList [("encoding", .str codec), ("object", .str s), ("start", .int i),
          ("end", .int (i + 1)), ("reason", .str reason)])

def encodeText (s : String) (args : List Value) (keywords : List (String × Value)) :
    Run Value := do
  let values ← named "encode" 0 ["encoding", "errors"] args keywords
  let option (i : Nat) (name default_ : String) : Run String := do
    match values.getD i none with
    | none => return default_
    | some v => asText v fun t =>
        "encode() argument " ++ quoteText name ++ " must be str, not " ++ t
  let encoding ← option 0 "encoding" "utf-8"
  let errors ← option 1 "errors" "strict"
  match encodingName encoding with
  | "utf8" => return .bytes (Utf8.encode s)
  | "ascii" | "usascii" => narrowBytes "ascii" 128 errors s
  | "latin1" | "iso88591" => narrowBytes "latin-1" 256 errors s
  | _ => raise "LookupError" ("unknown encoding: " ++ encoding)

def decodeBytes (bs : List UInt8) (encoding errors : String) : Run Value := do
  match encodingName encoding with
  | "utf8" =>
    match Utf8.decode bs with
    | .ok s => return .str s
    | .error f =>
      if errors != "strict" then return .str (Utf8.decodeShowing bs)
      else
        throwValue (.type "UnicodeDecodeError")
          [.str "utf-8", .bytes bs, .int f.position, .int (f.position + f.length),
            .str f.cause.message]
          (Names.ofList [("encoding", .str "utf-8"), ("object", .bytes bs),
            ("start", .int f.position), ("end", .int (f.position + f.length)),
            ("reason", .str f.cause.message)])
  | "ascii" | "latin1" | "iso88591" =>
    return .str (String.ofList (bs.map fun b => Char.ofNat b.toNat))
  | _ => raise "LookupError" ("unknown encoding: " ++ encoding)

def translated (s : String) (table : Value) : Run Value := do
  let pieces ← s.toList.mapM fun c => do
    let found ← catchingOnly "LookupError"
      (do return some (← getItem engine table (.int c.toNat))) fun _ => return none
    match found with
    | none => return [c]
    | some .none => return []
    | some (.str t) => return t.toList
    | some (.int n) => return [Char.ofNat n.toNat]
    | some _ => typeError "character mapping must return integer, None or str"
  return .str (String.ofList pieces.flatten)

def makeTable (args : List Value) : Run Value := do
  checkCount "maketrans" 1 3 args
  match args with
  | [v] =>
    let es ← asPairs engine v
    newDict (es.map fun (k, w) =>
      match k with
      | .str s => (.int (s.toList.headD ' ').toNat, w)
      | _ => (k, w))
  | .str a :: .str b :: more =>
    if a.length != b.length then
      valueError "the first two maketrans arguments must have equal length"
    let gone := match more with
      | [.str c] => c.toList
      | _ => []
    newDict ((a.toList.zip b.toList).map (fun (x, y) => (.int x.toNat, .int y.toNat)) ++
      gone.map fun x => (.int x.toNat, .none))
  | _ => typeError "maketrans() argument 2 must be str"

/-- Tests of texts that hold if they hold for every character and there is one. -/
def characterTest? : String → Option (Char → Bool)
  | "isalpha" => some isLetter
  | "isalnum" => some isLetterOrNumeral
  | "isdecimal" => some isDecimalDigit
  | "isdigit" => some fun c => isDecimalDigit c || "²³¹⁰⁴⁵⁶⁷⁸⁹₀₁₂₃₄₅₆₇₈₉".toList.contains c
  | "isnumeric" => some fun c => isLetterOrNumeral c && !isLetter c
  | "isspace" => some isBlank
  | _ => none

/-- Calls a method of a text. -/
def textMethod (s name : String) (args : List Value) (keywords : List (String × Value)) :
    Run Value := do
  let title := "str." ++ name
  let cs := s.toList
  let text (cs : List Char) : Run Value := return .str (String.ofList cs)
  match characterTest? name with
  | some p =>
    noArguments title args keywords
    return .bool (!cs.isEmpty && cs.all p)
  | none =>
    match name with
    | "upper" => noArguments title args keywords; return .str (upper s)
    | "lower" => noArguments title args keywords; return .str (lower s)
    | "casefold" =>
      noArguments title args keywords
      text (cs.flatMap fun c =>
        match upperChar c with
        | [_] => lowerChar c
        | more => more.flatMap lowerChar)
    | "title" => noArguments title args keywords; text (titleFrom [] cs)
    | "swapcase" => noArguments title args keywords; text (swapCaseFrom [] cs)
    | "capitalize" =>
      noArguments title args keywords
      match cs with
      | [] => return .str ""
      | c :: r => text (titleChar c ++ lowerFrom [c] r)
    | "isupper" => noArguments title args keywords; return .bool (isUpper s)
    | "islower" => noArguments title args keywords; return .bool (isLower s)
    | "istitle" => noArguments title args keywords; return .bool (isTitleFrom false false cs)
    | "isascii" => noArguments title args keywords; return .bool (cs.all fun c => c.toNat < 128)
    | "isprintable" => noArguments title args keywords; return .bool (cs.all isPrintable)
    | "isidentifier" => noArguments title args keywords; return .bool (isIdentifier s)
    | "find" | "rfind" =>
      noKeywords title keywords
      let found ← search engine s name (name == "rfind") args
      return .int ((found.map Int.ofNat).getD (-1))
    | "index" | "rindex" =>
      noKeywords title keywords
      match ← search engine s name (name == "rindex") args with
      | some i => return .int i
      | none => noSubstring
    | "count" => noKeywords title keywords; return .int (← countOf engine s args)
    | "startswith" =>
      noKeywords title keywords
      return .bool (← atEnd engine s name List.isPrefixOf args)
    | "endswith" =>
      noKeywords title keywords
      return .bool (← atEnd engine s name List.isSuffixOf args)
    | "split" => do
      match ← cutArguments engine name args keywords with
      | (none, limit) => textList (wordsUpTo (limit.getD cs.length) cs)
      | (some sep, limit) => textList (cutAll sep.toList limit cs)
    | "rsplit" => do
      match ← cutArguments engine name args keywords with
      | (none, limit) => textList (wordsUpToFromEnd (limit.getD cs.length) cs)
      | (some sep, limit) => textList (cutAllFromEnd sep.toList limit cs)
    | "splitlines" =>
      let values ← named name 0 ["keepends"] args keywords
      let keep ← truth engine ((values.getD 0 none).getD (.bool false))
      newList ((if keep then linesWithEnds s else lines s).map .str)
    | "join" => joinTexts engine s (← single title args keywords)
    | "partition" => partitioned s title false args keywords
    | "rpartition" => partitioned s title true args keywords
    | "strip" => noKeywords title keywords; text (trimBy (← trimArguments name args) cs)
    | "lstrip" => noKeywords title keywords; text (cs.dropWhile (← trimArguments name args))
    | "rstrip" => noKeywords title keywords; text (dropEndWhile (← trimArguments name args) cs)
    | "replace" =>
      noKeywords title keywords
      checkCount name 2 3 args
      let must (i : Nat) (t : String) : String :=
        "replace() argument " ++ toString i ++ " must be str, not " ++ t
      let part ← asText (args.getD 0 .none) (must 1)
      let by_ ← asText (args.getD 1 .none) (must 2)
      let limit ← match args[2]? with
        | none => pure none
        | some v => do
          let n ← asInt engine v
          pure (if n < 0 then none else some n.toNat)
      text (replaceIn part.toList by_.toList limit cs)
    | "center" =>
      noKeywords title keywords
      let (w, c) ← padArguments engine name args
      text (centered w c cs)
    | "ljust" =>
      noKeywords title keywords
      let (w, c) ← padArguments engine name args
      text (cs ++ List.replicate (w - cs.length) c)
    | "rjust" =>
      noKeywords title keywords
      let (w, c) ← padArguments engine name args
      text (List.replicate (w - cs.length) c ++ cs)
    | "zfill" => text (zeroFilled (← asCount engine (← single title args keywords)) cs)
    | "expandtabs" =>
      let values ← named name 0 ["tabsize"] args keywords
      let size ← asCount engine ((values.getD 0 none).getD (.int 8))
      text (expandTabsFrom size 0 cs)
    | "removeprefix" =>
      let p ← asText (← single title args keywords) fun t =>
        "removeprefix() argument must be str, not " ++ t
      return .str (if startsWith s p then String.ofList (cs.drop p.length) else s)
    | "removesuffix" =>
      let p ← asText (← single title args keywords) fun t =>
        "removesuffix() argument must be str, not " ++ t
      return .str (if endsWith s p && !p.isEmpty then String.ofList (cs.take (cs.length - p.length))
        else s)
    | "encode" => encodeText s args keywords
    | "format" => text (← braces engine args keywords (cs.length + 1) 0 cs)
    | "format_map" =>
      let es ← asPairs engine (← single title args keywords)
      let fields := es.filterMap fun (k, v) =>
        match k with
        | .str n => some (n, v)
        | _ => none
      text (← braces engine [] fields (cs.length + 1) 0 cs)
    | "translate" => translated engine s (← single title args keywords)
    | _ => typeError (quoteText name ++ " is not supported")

/-- Calls a method of bytes. -/
def bytesMethod (bs : List UInt8) (name : String) (args : List Value)
    (keywords : List (String × Value)) : Run Value := do
  let title := "bytes." ++ name
  match name with
  | "decode" =>
    let values ← named name 0 ["encoding", "errors"] args keywords
    let option (i : Nat) (param default_ : String) : Run String := do
      match values.getD i none with
      | none => return default_
      | some v => asText v fun t =>
          "decode() argument " ++ quoteText param ++ " must be str, not " ++ t
    decodeBytes bs (← option 0 "encoding" "utf-8") (← option 1 "errors" "strict")
  | "hex" =>
    noKeywords title keywords
    return .str (String.ofList (bs.flatMap fun b => hexDigits 2 b.toNat))
  | _ =>
    -- bytes below 128 act as the characters of that number
    let narrow (v : Value) : Value :=
      match v with
      | .bytes xs => .str (String.ofList (xs.map fun b => Char.ofNat b.toNat))
      | _ => v
    let widen (v : Value) : Run Value := do
      match v with
      | .str s => return .bytes (s.toList.map fun c => UInt8.ofNat c.toNat)
      | .ref a =>
        match ← object a with
        | .list items =>
          newList (items.toList.map fun w =>
            match w with
            | .str s => .bytes (s.toList.map fun c => UInt8.ofNat c.toNat)
            | _ => w)
        | _ => return v
      | _ => return v
    match narrow (.bytes bs) with
    | .str s => widen (← textMethod engine s name (args.map narrow) keywords)
    | v => return v

end NestShell.Code.Run

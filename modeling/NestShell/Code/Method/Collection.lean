import NestShell.Code.Argument
/-!
The methods of lists, tuples, mappings, sets and ranges.
-/
namespace NestShell.Code.Run

variable (engine : Engine)

/-- Where a value stands, within bounds. -/
def indexOf (items : List Value) (args : List Value) (absent : Run Value) : Run Value := do
  checkCount "index" 1 3 args
  for v in args.drop 1 do
    if (← index? engine v).isNone then
      typeError "slice indices must be integers or have an __index__ method"
  let (lo, hi, _) ← asBounds engine items.length (args.drop 1)
  match ← position? engine (args.getD 0 .none) ((items.take hi).drop lo) lo with
  | some i => return .int i
  | none => absent

def countIn (items : List Value) (v : Value) : Run Value := do
  return .int (← items.filterM fun w => sameOrEqual engine w v).length

/-- The key and the direction of a sort. -/
def sortArguments (keywords : List (String × Value)) : Run (Value × Bool) := do
  for (n, _) in keywords do
    if n != "key" && n != "reverse" then
      typeError (quoteText n ++ " is an invalid keyword argument for sort()")
  let descending ← match keywords.lookup "reverse" with
    | none => pure false
    | some v => do pure ((← asInt engine v) != 0)
  return ((keywords.lookup "key").getD .none, descending)

/-- Calls a method of a list. -/
def listMethod (a : Nat) (items : List Value) (name : String) (args : List Value)
    (keywords : List (String × Value)) : Run Value := do
  let title := "list." ++ name
  let store (vs : List Value) : Run Value := do
    put a (.list vs.toArray)
    return .none
  match name with
  | "append" => store (items ++ [← single title args keywords])
  | "extend" => store (items ++ (← engine.elements (← single title args keywords)))
  | "insert" =>
    noKeywords title keywords
    checkCount name 2 2 args
    let i ← asInt engine (args.getD 0 .none)
    let n : Int := items.length
    let k := (if i < 0 then max 0 (i + n) else min i n).toNat
    store (items.take k ++ [args.getD 1 .none] ++ items.drop k)
  | "pop" =>
    noKeywords title keywords
    checkCount name 0 1 args
    let i ← asInt engine (args.getD 0 (.int (-1)))
    if items.isEmpty then raise "IndexError" "pop from empty list"
    match resolveIndex items.length i with
    | some k =>
      let _ ← store (items.eraseIdx k)
      return items.getD k .none
    | none => raise "IndexError" "pop index out of range"
  | "remove" =>
    match ← position? engine (← single title args keywords) items 0 with
    | some k => store (items.eraseIdx k)
    | none => valueError "list.remove(x): x not in list"
  | "index" =>
    noKeywords title keywords
    indexOf engine items args do
      valueError ((← engine.shown (args.getD 0 .none)) ++ " is not in list")
  | "count" => countIn engine items (← single title args keywords)
  | "sort" =>
    if !args.isEmpty then typeError "sort() takes no positional arguments"
    let (key, descending) ← sortArguments engine keywords
    store (← sortValues engine items key descending)
  | "reverse" => noArguments title args keywords; store items.reverse
  | "clear" => noArguments title args keywords; store []
  | "copy" => noArguments title args keywords; newList items
  | _ => typeError (quoteText name ++ " is not supported")

def tupleMethod (items : List Value) (name : String) (args : List Value)
    (keywords : List (String × Value)) : Run Value := do
  match name with
  | "index" =>
    noKeywords "tuple.index" keywords
    indexOf engine items args (valueError "tuple.index(x): x not in tuple")
  | "count" => countIn engine items (← single "tuple.count" args keywords)
  | _ => typeError (quoteText name ++ " is not supported")

def rangeMethod (items : List Value) (name : String) (args : List Value)
    (keywords : List (String × Value)) : Run Value := do
  match name with
  | "index" =>
    let v ← single "range.index" args keywords
    match ← position? engine v items 0 with
    | some i => return .int i
    | none => valueError ((← engine.shown v) ++ " is not in range")
  | "count" => countIn engine items (← single "range.count" args keywords)
  | _ => typeError (quoteText name ++ " is not supported")

/-- Calls a method of a mapping; `store` keeps its new entries. -/
def dictMethod (self : Value) (es : List (Value × Value)) (store : List (Value × Value) → Run Unit)
    (name : String) (args : List Value) (keywords : List (String × Value)) : Run Value := do
  let title := "dict." ++ name
  let key := args.getD 0 .none
  let view (k : ViewKind) : Run Value := do
    noArguments title args keywords
    match self with
    | .ref a => return .view k a
    | _ => return .none
  match name with
  | "get" =>
    noKeywords title keywords
    checkCount name 1 2 args
    checkKey key
    return (findKey? key es).getD (args.getD 1 .none)
  | "pop" =>
    noKeywords title keywords
    checkCount name 1 2 args
    checkKey key
    match findKey? key es, (args[1]? : Option Value) with
    | some v, _ =>
      store (eraseKey key es)
      return v
    | none, some v => return v
    | none, none => throwValue (.type "KeyError") [key] {}
  | "popitem" =>
    noArguments title args keywords
    match es.getLast? with
    | some (k, v) =>
      store es.dropLast
      return .tuple [k, v]
    | none => raise "KeyError" "popitem(): dictionary is empty"
  | "setdefault" =>
    noKeywords title keywords
    checkCount name 1 2 args
    checkKey key
    match findKey? key es with
    | some v => return v
    | none =>
      let v := args.getD 1 .none
      store (setKey key v es)
      return v
  | "update" =>
    checkCount name 0 1 args
    let more ← match args with
      | v :: _ => asPairs engine v
      | [] => pure []
    store (← mergeEntries es (more ++ keywords.map fun (n, v) => (.str n, v)))
    return .none
  | "keys" => view .keys
  | "values" => view .values
  | "items" => view .items
  | "copy" => noArguments title args keywords; newDict es
  | "clear" =>
    noArguments title args keywords
    store []
    return .none
  | _ => typeError (quoteText name ++ " is not supported")

/-- A mapping with one value for all keys. -/
def dictFromKeys (args : List Value) : Run Value := do
  checkCount "fromkeys" 1 2 args
  let keys ← engine.elements (args.getD 0 .none)
  newDict (← mergeEntries [] (keys.map fun k => (k, args.getD 1 .none)))

/-- Calls a method of a set. -/
def setMethod (a : Nat) (items : List Value) (frozen : Bool) (name : String) (args : List Value)
    (keywords : List (String × Value)) : Run Value := do
  let title := (if frozen then "frozenset." else "set.") ++ name
  let store (vs : List Value) : Run Value := do
    put a (.set vs frozen)
    return .none
  let others : Run (List Value) := do
    noKeywords title keywords
    return (← args.mapM engine.elements).flatten
  let inside (vs : List Value) (v : Value) : Bool := vs.any (keyEqual v)
  match name with
  | "add" =>
    let v ← single title args keywords
    checkKey v
    store (distinct (items ++ [v]))
  | "remove" =>
    let v ← single title args keywords
    if inside items v then store (items.filter fun w => !keyEqual v w)
    else throwValue (.type "KeyError") [v] {}
  | "discard" =>
    let v ← single title args keywords
    store (items.filter fun w => !keyEqual v w)
  | "pop" =>
    noArguments title args keywords
    match items with
    | v :: rest =>
      let _ ← store rest
      return v
    | [] => raise "KeyError" "pop from an empty set"
  | "clear" => noArguments title args keywords; store []
  | "copy" => noArguments title args keywords; new (.set items frozen)
  | "union" => new (.set (distinct (items ++ (← others))) frozen)
  | "update" => store (distinct (items ++ (← others)))
  | "intersection" =>
    let vs ← others
    new (.set (items.filter (inside vs)) frozen)
  | "difference" =>
    let vs ← others
    new (.set (items.filter fun v => !inside vs v) frozen)
  | "symmetric_difference" =>
    let vs ← others
    new (.set (items.filter (fun v => !inside vs v) ++ vs.filter fun v => !inside items v) frozen)
  | "issubset" =>
    let vs ← engine.elements (← single title args keywords)
    return .bool (items.all (inside vs))
  | "issuperset" =>
    let vs ← engine.elements (← single title args keywords)
    return .bool (vs.all (inside items))
  | "isdisjoint" =>
    let vs ← engine.elements (← single title args keywords)
    return .bool (!vs.any (inside items))
  | _ => typeError (quoteText name ++ " is not supported")

end NestShell.Code.Run

import NestShell.Code.Evaluate
/-!
Selections: which shapes a value has, and what it gives to the names in them. Names are bound only
when the whole shape suits.
-/
namespace NestShell.Code.Run

variable (engine : Engine)

/-- What a shape binds in a value that has it. -/
abbrev Found := Option (List (String × Value))

/-- What several shapes bind, each in its value; the first that does not suit ends it. -/
def bindAll (one : Shape → Value → Run Found) : List (Shape × Value) → Run Found
  | [] => return some []
  | (s, v) :: rest => do
    match ← one s v with
    | none => return none
    | some here => return (← bindAll one rest).map (here ++ ·)

/-- What the first of some shapes that suits binds. -/
def bindFirst (one : Shape → Run Found) : List Shape → Run Found
  | [] => return none
  | s :: rest => do
    match ← one s with
    | some found => return some found
    | none => bindFirst one rest

/-! ## Sequences -/

/-- The elements of a value that shapes take for a sequence; texts are none. -/
def sequenceItems? (v : Value) : Run (Option (List Value)) := do
  match v with
  | .tuple vs => return some vs
  | .ref a =>
    match ← object a with
    | .list items => return some items.toList
    | .range lo hi step => return some (rangeItems lo hi step)
    | _ => return none
  | _ => return none

/-- The shapes of a sequence with their values, if there are as many as it takes. -/
def sequenceParts? (items : List Shape) (vs : List Value) :
    Run (Option (List (Shape × Value))) := do
  match items.findIdx? Shape.isRest with
  | none => return if vs.length == items.length then some (items.zip vs) else none
  | some i =>
    let others := items.length - 1
    if vs.length < others then return none
    else
      let middle := (vs.drop i).take (vs.length - others)
      let rest ← if items.any Shape.isLooseRest then pure .none else newList middle
      return some (items.zip (vs.take i ++ [rest] ++ vs.drop (i + middle.length)))

/-! ## Mappings -/

/-- The values under some keys, unless one is missing; no key comes twice. -/
def valuesUnder? (entries : List (Value × Value)) :
    List Value → List Value → Run (Option (List Value))
  | _, [] => return some []
  | seen, k :: ks => do
    checkKey k
    if seen.any (keyEqual k) then
      valueError ("mapping pattern checks duplicate key (" ++ (← engine.shown k) ++ ")")
    match findKey? k entries with
    | none => return none
    | some v => return (← valuesUnder? entries (k :: seen) ks).map (v :: ·)

/-! ## Objects -/

/-- Classes of which one shape by position asks for the value itself. -/
def wholeClasses : List String :=
  ["bool", "bytearray", "bytes", "dict", "float", "frozenset", "int", "list", "set", "str",
    "tuple"]

/-- The values of some attributes, unless one is missing; no attribute comes twice. -/
def fieldsOf? (cls subject : Value) : List String → List Value → Run (Option (List Value))
  | _, [] => return some []
  | seen, .str n :: ns => do
    if seen.contains n then
      typeError ((← className cls) ++ "() got multiple sub-patterns for attribute " ++ quoteText n)
    match ← getAttr? engine subject n with
    | none => return none
    | some v => return (← fieldsOf? cls subject (n :: seen) ns).map (v :: ·)
  | _, v :: _ => do
    typeError ("__match_args__ elements must be strings (got " ++ (← typeName v) ++ ")")

/-- The values that an object of a class gives to so many shapes by position and to those by
name, unless it is of another class or has no such attribute. -/
def objectParts? (cls subject : Value) (count : Nat) (names : List String) :
    Run (Option (List Value)) := do
  if !(← isClass cls) then typeError "called match pattern must be a type"
  if !(← instanceOf subject cls) then return none
  let named := names.map Value.str
  if count == 0 then fieldsOf? engine cls subject [] named
  else
    match ← getAttr? engine cls "__match_args__" with
    | some (.tuple fields) =>
      checkCount fields.length
      fieldsOf? engine cls subject [] (fields.take count ++ named)
    | some v =>
      typeError ((← className cls) ++ ".__match_args__ must be a tuple (got " ++
        (← typeName v) ++ ")")
    | none =>
      let whole := (← order cls).any fun c => (builtinName? c).any wholeClasses.contains
      checkCount (if whole then 1 else 0)
      return (← fieldsOf? engine cls subject [] named).map (subject :: ·)
where
  checkCount (allowed : Nat) : Run Unit := do
    if allowed < count then
      typeError ((← className cls) ++ "() accepts " ++ toString allowed ++
        " positional sub-pattern" ++ (if allowed == 1 then "" else "s") ++ " (" ++
        toString count ++ " given)")

/-! ## Shapes -/

/-- What a shape binds in a value. -/
def matchShape : Nat → Frame → Shape → Value → Run Found
  | 0, _, _, _ => throw .outOfFuel
  | fuel + 1, frame, s, v => do
    atLine s.line
    let all := bindAll (matchShape fuel frame)
    match s with
    | .value line e => do
      let w ← engine.eval frame e
      atLine line
      if ← truth engine (← compare engine .equal v w) then return some [] else return none
    | .constant _ w => return if v.same w then some [] else none
    | .rest _ n | .any _ n => return some (n.toList.map (·, v))
    | .named _ inner n => return (← matchShape fuel frame inner v).map (· ++ [(n, v)])
    | .either _ choices => bindFirst (fun c => matchShape fuel frame c v) choices
    | .sequence _ items =>
      match ← sequenceItems? v with
      | none => return none
      | some vs =>
        match ← sequenceParts? items vs with
        | none => return none
        | some parts => all parts
    | .mapping line keys items rest =>
      match ← mappingEntries? v with
      | none => return none
      | some entries =>
        if entries.length < keys.length then return none
        else
          let ks ← keys.mapM (engine.eval frame)
          atLine line
          match ← valuesUnder? engine entries [] ks with
          | none => return none
          | some vs =>
            match ← all (items.zip vs), rest with
            | some found, some n =>
              let others := entries.filter fun (k, _) => !ks.any (keyEqual k)
              return some (found ++ [(n, ← newDict others)])
            | found, _ => return found
    | .object line cls positions names fields =>
      let c ← engine.eval frame cls
      atLine line
      match ← objectParts? engine c v positions.length names with
      | none => return none
      | some vs => all ((positions ++ fields).zip vs)

/-- Runs the first case whose shape the subject has and whose condition holds. -/
def runCases (frame : Frame) (subject : Value) : List Case → Run Flow
  | [] => return .next
  | .mk shape test body :: rest => do
    match ← matchShape engine Check.deepest frame shape subject with
    | none => runCases frame subject rest
    | some found =>
      for (n, v) in found do writeName frame n v
      let wanted ← match test with
        | none => pure true
        | some e => do truth engine (← engine.eval frame e)
      if wanted then engine.exec frame body else runCases frame subject rest

end NestShell.Code.Run

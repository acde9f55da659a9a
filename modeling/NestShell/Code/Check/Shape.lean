import NestShell.Code.Check.Mention
import NestShell.Code.Written
/-!
Checks of the shapes that the cases of a selection ask for: each name is bound once, and no shape
comes after one that takes everything.
-/
namespace NestShell.Code.Check

def checkBound (line : Nat) (n : String) : Verdict :=
  if n == debugName then fault line (.cannotAssign n) else .ok ()

/-! ## Constants -/

/-- The constant that an expression of a shape stands for. -/
def constantOf? : Expr → Option Value
  | .const _ v => some v
  | .unary _ .negative (.const _ v) => negated v
  | .binary _ op a (.const _ (.complex _ im)) =>
    match realPart? a with
    | some x => some (.complex x (if op == .subtract then -im else im))
    | none => none
  | _ => none
where
  negated : Value → Option Value
    | .int n => some (.int (-n))
    | .float x => some (.float (-x))
    | .complex re im => some (.complex (-re) (-im))
    | _ => none
  toFloat? (v : Value) : Option Float :=
    (Run.number? v).map fun
      | .inl n => Float.ofInt n
      | .inr x => x
  realPart? : Expr → Option Float
    | .const _ v => toFloat? v
    | .unary _ .negative (.const _ v) => (negated v).bind toFloat?
    | _ => none

/-- Checks the keys of a mapping, of which those in `seen` came before. -/
def checkKeys (line : Nat) : List Value → List Expr → Verdict
  | _, [] => .ok ()
  | _, .formatted .. :: _ => fault line .formattedKey
  | seen, e :: es =>
    match constantOf? e with
    | some v =>
      if seen.any (keyEqual v) then fault line (.repeatedKey (constantText v))
      else checkKeys line (v :: seen) es
    | none => checkKeys line seen es

/-! ## Shapes -/

/-- The names that shapes have bound, and the line of the shape looked at last. -/
structure Bindings where
  names : List String
  line : Nat

def Bindings.bind (b : Bindings) (n : String) : Except SyntaxFault Bindings := do
  checkBound b.line n
  if b.names.contains n then .error ⟨.boundTwice n, b.line⟩
  else return { b with names := b.names ++ [n] }

/-- The fields of an object, each asked for once. -/
def checkFields : List String → List Shape → Verdict
  | n :: ns, s :: ss => do
    checkBound s.line n
    match (ns.zip ss).find? (·.1 == n) with
    | some (_, later) => fault later.line (.repeatedField n)
    | none => checkFields ns ss
  | _, _ => .ok ()

/-- Whether two lists have the same names. -/
def sameNames (as bs : List String) : Bool := as.length == bs.length && as.all bs.contains

/-- Checks a shape, which may take everything only where `whole` says so. -/
def checkShape : Nat → Bool → Bindings → Shape → Except SyntaxFault Bindings
  | 0, _, b, _ => .ok b
  | fuel + 1, whole, b, s => do
    let b := { b with line := s.line }
    let all (b : Bindings) (ss : List Shape) : Except SyntaxFault Bindings :=
      ss.foldlM (checkShape fuel true) b
    match s with
    | .value line e => if e matches .formatted .. then .error ⟨.formattedShape, line⟩ else return b
    | .constant .. => return b
    | .any line n =>
      if !whole then .error ⟨n.elim .wildcardHides .captureHides, line⟩
      else n.elim (return b) b.bind
    | .rest _ n => n.elim (return b) b.bind
    | .named _ inner n => do (← checkShape fuel whole b inner).bind n
    | .sequence line items =>
      let rests := items.filter Shape.isRest
      if rests.length > 1 then .error ⟨.severalRests, line⟩
      else if items.all fun i => i.isWildcard || i.isLooseRest then return b
      else if rests.any Shape.isLooseRest then
        all b (items.filter fun i => !i.isWildcard && !i.isRest)
      else if (items.findIdx? Shape.isRest).any (· ≥ 256) then .error ⟨.manyBeforeRest, line⟩
      else all b items
    | .mapping line keys items rest => do
      checkKeys line [] keys
      let b ← all b items
      rest.elim (return b) b.bind
    | .object _ _ positions names fields => do
      checkFields names fields
      all b ((positions ++ fields).filter fun i => !i.isWildcard)
    | .either _ choices =>
      let last := choices.length - 1
      let first ← choices.zipIdx.foldlM (fun (bound : Option (List String) × Nat) (c, i) => do
        let inner ← checkShape fuel (whole && i == last) ⟨[], bound.2⟩ c
        match bound.1 with
        | none => return (some inner.names, inner.line)
        | some names =>
          if sameNames names inner.names then return (bound.1, inner.line)
          else .error ⟨.differentNames, inner.line⟩) (none, b.line)
      (first.1.getD []).foldlM (fun (b : Bindings) n =>
        if b.names.contains n then .error ⟨.boundTwice n, b.line⟩
        else return { b with names := b.names ++ [n] }) { b with line := first.2 }

end NestShell.Code.Check

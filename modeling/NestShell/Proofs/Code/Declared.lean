import NestShell.Code.Scope

/-!
# What declarations decide

A name that a program declares global is looked up, bound and deleted among the global variables.
All else that an expression does is the same in a frame with other declarations: functions and
comprehensions have frames of their own. So the value of an expression depends on the declarations
only for the names that it mentions.
-/

namespace NestShell.Code

/-! ## Names that are mentioned -/

namespace Binding

/-- The names that an expression reads or binds, in its comprehensions too. -/
def mentioned : Nat → Expr → List String
  | 0, _ => []
  | fuel + 1, e =>
    (match e with
    | .name _ n | .naming _ n _ => [n]
    | _ => []) ++ (Check.Expr.parts e).flatMap (mentioned fuel)

theorem mentioned_part {fuel : Nat} {e part : Expr} {n : String}
    (inside : part ∈ Check.Expr.parts e) (mentions : n ∈ mentioned fuel part) :
    n ∈ mentioned (fuel + 1) e :=
  List.mem_append_right _ (List.mem_flatMap.mpr ⟨part, inside, mentions⟩)

/-- The names bound in comprehensions are mentioned. -/
theorem mentioned_of_gathered {fuel : Nat} {inside : Bool} {e : Expr} {n : String}
    (bound : n ∈ gathered fuel inside e) : n ∈ mentioned fuel e := by
  induction fuel generalizing inside e with
  | zero => cases bound
  | succ fuel ih =>
    rcases List.mem_append.mp bound with here | within
    · refine List.mem_append_left _ ?_
      cases e with
      | naming line m value =>
        cases inside with
        | true => exact here
        | false => cases here
      | _ => cases here
    · obtain ⟨part, member, boundThere⟩ := List.mem_flatMap.mp within
      exact mentioned_part member (ih boundThere)

theorem mentioned_succ {fuel : Nat} {e : Expr} {n : String} (mentions : n ∈ mentioned fuel e) :
    n ∈ mentioned (fuel + 1) e := by
  induction fuel generalizing e with
  | zero => cases mentions
  | succ fuel ih =>
    rcases List.mem_append.mp mentions with itself | within
    · exact List.mem_append_left _ itself
    · obtain ⟨part, inside, there⟩ := List.mem_flatMap.mp within
      exact mentioned_part inside (ih there)

theorem declaredAnywhere_expr (depth line : Nat) (e : Expr) :
    declaredAnywhere depth (.expr line e) = [] := by
  cases depth <;> rfl

theorem gatheredIn_expr (depth line line' : Nat) (e : Expr) :
    gatheredIn depth (.expr line e) = gatheredIn depth (.expr line' e) := by
  cases depth <;> rfl

theorem ofProgram_expr (line line' : Nat) (e : Expr) :
    ofProgram [.expr line e] = ofProgram [.expr line' e] := by
  unfold ofProgram
  rw [List.flatMap_singleton, List.flatMap_singleton, List.flatMap_singleton,
    List.flatMap_singleton, declaredAnywhere_expr, declaredAnywhere_expr, gatheredIn_expr _ line line']

theorem mentioned_of_gatheredIn {depth line : Nat} {e : Expr} {n : String}
    (bound : n ∈ gatheredIn depth (.expr line e)) : n ∈ mentioned depth e := by
  cases depth with
  | zero => cases bound
  | succ depth =>
    rcases List.mem_append.mp bound with inside | none
    · obtain ⟨part, isPart, there⟩ := List.mem_flatMap.mp inside
      obtain rfl := List.mem_singleton.mp isPart
      exact mentioned_succ (mentioned_of_gathered there)
    · cases none

/-- What an expression declares by itself are names that it mentions. -/
theorem mentioned_of_ofProgram {line : Nat} {e : Expr} {n : String}
    (declared : n ∈ ofProgram [.expr line e]) : n ∈ mentioned Check.deepest e := by
  unfold ofProgram at declared
  rw [List.flatMap_singleton, List.flatMap_singleton, declaredAnywhere_expr] at declared
  exact mentioned_of_gatheredIn declared

theorem ofProgram_append_right {ss ts : List Stmt} {n : String} (declared : n ∈ ofProgram ts) :
    n ∈ ofProgram (ss ++ ts) := by
  unfold ofProgram at *
  rw [List.flatMap_append, List.flatMap_append]
  rcases List.mem_append.mp declared with said | bound
  · exact List.mem_append_left _ (List.mem_append_right _ said)
  · exact List.mem_append_right _ (List.mem_append_right _ bound)

theorem ofProgram_append_nil {ss ts : List Stmt} (none : ofProgram ts = []) :
    ofProgram (ss ++ ts) = ofProgram ss := by
  unfold ofProgram at *
  obtain ⟨said, bound⟩ := List.append_eq_nil_iff.mp none
  rw [List.flatMap_append, List.flatMap_append, said, bound, List.append_nil, List.append_nil]

end Binding

/-! ## Frames that differ in their declarations -/

/-- The frame with other declarations. -/
def Frame.declaring (frame : Frame) (declared : List String) : Frame :=
  { frame with declared := declared }

namespace Run

variable {α β : Type} {engine : Engine} {frame : Frame} {declared : List String}

theorem bind_alike {p q : Run α} {f g : α → Run β} (first : p = q) (rest : ∀ a, f a = g a) :
    p >>= f = q >>= g := by
  rw [first]
  exact bind_congr rest

theorem mapM_congr {p q : α → Run β} {as : List α} (same : ∀ a ∈ as, p a = q a) :
    as.mapM p = as.mapM q := by
  induction as with
  | nil => rfl
  | cons a as ih =>
    obtain ⟨first, rest⟩ := List.forall_mem_cons.mp same
    rw [List.mapM_cons, List.mapM_cons, first, ih rest]

theorem filterMapM_congr {p q : α → Run (Option β)} {as : List α} (same : ∀ a ∈ as, p a = q a) :
    as.filterMapM p = as.filterMapM q := by
  induction as with
  | nil => rfl
  | cons a as ih =>
    obtain ⟨first, rest⟩ := List.forall_mem_cons.mp same
    rw [List.filterMapM_cons, List.filterMapM_cons, first, ih rest]

theorem mem_allParts {pieces : List Piece} {piece : Piece} {e : Expr} (member : piece ∈ pieces)
    (inside : e ∈ Check.Piece.parts piece) : e ∈ Check.Piece.allParts pieces := by
  induction pieces with
  | nil => cases member
  | cons first rest ih =>
    rcases List.mem_cons.mp member with rfl | later
    · exact List.mem_append_left _ inside
    · exact List.mem_append_right _ (ih later)

/-- An expression has the same value whichever of the two frames it stands in. -/
def Alike (engine : Engine) (frame : Frame) (declared : List String) (e : Expr) : Prop :=
  engine.eval (frame.declaring declared) e = engine.eval frame e

section Parts

theorem evalItems_alike {items : List Expr}
    (alike : ∀ e ∈ items.map Check.Expr.parts.withoutStar, Alike engine frame declared e) :
    evalItems engine (frame.declaring declared) items = evalItems engine frame items := by
  unfold evalItems
  congr 1
  refine mapM_congr fun e member => ?_
  have same := alike _ (List.mem_map_of_mem member)
  cases e with
  | star line inner => exact congrArg (· >>= _) same
  | _ => exact congrArg (· >>= _) same

theorem evalEntries_alike {entries : List Entry} (acc : List (Value × Value))
    (alike : ∀ e ∈ entries.flatMap Entry.parts, Alike engine frame declared e) :
    evalEntries engine (frame.declaring declared) entries acc =
      evalEntries engine frame entries acc := by
  induction entries generalizing acc with
  | nil => rfl
  | cons entry rest ih =>
    obtain ⟨first, others⟩ := List.forall_mem_append.mp alike
    cases entry with
    | pair key value =>
      refine bind_alike (first key (.head _)) fun k =>
        bind_alike (first value (.tail _ (.head _))) fun v => bind_congr fun _ => ih _ others
    | spread e =>
      refine bind_alike (first e (.head _)) fun v => bind_congr fun es => ?_
      cases es with
      | none => rfl
      | some es => exact ih _ others

theorem evalPieces_alike (fuel : Nat) {pieces : List Piece}
    (alike : ∀ e ∈ Check.Piece.allParts pieces, Alike engine frame declared e) :
    evalPieces engine (frame.declaring declared) fuel pieces =
      evalPieces engine frame fuel pieces := by
  induction fuel generalizing pieces with
  | zero => rfl
  | succ fuel ih =>
    unfold evalPieces
    congr 1
    refine mapM_congr fun piece member => ?_
    cases piece with
    | text s => rfl
    | value e conversion format =>
      have inside := fun e inPiece => alike e (mem_allParts member inPiece)
      obtain ⟨value, formats⟩ := List.forall_mem_cons.mp inside
      dsimp only
      rw [value, ih formats]

theorem evalArguments_alike {f : Value} {arguments : List Argument} (args : List Value)
    (keywords : List (String × Value))
    (alike : ∀ e ∈ arguments.map Argument.value, Alike engine frame declared e) :
    evalArguments engine (frame.declaring declared) f arguments args keywords =
      evalArguments engine frame f arguments args keywords := by
  induction arguments generalizing args keywords with
  | nil => rfl
  | cons argument rest ih =>
    obtain ⟨first, others⟩ := List.forall_mem_cons.mp alike
    have after := fun args keywords => ih args keywords others
    cases argument with
    | plain e => exact bind_alike first fun v => after _ _
    | star e => exact bind_alike first fun v => bind_congr fun vs => after _ _
    | keyword line n e =>
      refine bind_alike first fun v => ?_
      rw [after]
    | doubleStar e =>
      refine bind_alike first fun v => bind_congr fun es => ?_
      cases es with
      | none => rfl
      | some es =>
        refine bind_congr fun more => ?_
        rw [after]

theorem evalEvery_alike {items : List Expr} (alike : ∀ e ∈ items, Alike engine frame declared e) :
    evalEvery engine (frame.declaring declared) items = evalEvery engine frame items := by
  induction items with
  | nil => rfl
  | cons e rest ih =>
    obtain ⟨first, others⟩ := List.forall_mem_cons.mp alike
    cases rest with
    | nil => exact first
    | cons e' rest =>
      unfold evalEvery
      rw [first, ih others]

theorem evalEither_alike {items : List Expr} (alike : ∀ e ∈ items, Alike engine frame declared e) :
    evalEither engine (frame.declaring declared) items = evalEither engine frame items := by
  induction items with
  | nil => rfl
  | cons e rest ih =>
    obtain ⟨first, others⟩ := List.forall_mem_cons.mp alike
    cases rest with
    | nil => exact first
    | cons e' rest =>
      unfold evalEither
      rw [first, ih others]

theorem evalChain_alike {line : Nat} {v : Value} {comparisons : List Comparison}
    (alike : ∀ e ∈ comparisons.map Comparison.operand, Alike engine frame declared e) :
    evalChain engine (frame.declaring declared) line v comparisons =
      evalChain engine frame line v comparisons := by
  induction comparisons generalizing v with
  | nil => rfl
  | cons comparison rest ih =>
    obtain ⟨op, e⟩ := comparison
    obtain ⟨first, others⟩ := List.forall_mem_cons.mp alike
    cases rest with
    | nil => exact bind_alike first fun w => rfl
    | cons comparison' rest =>
      refine bind_alike first fun w => bind_congr fun _ => bind_congr fun r => ?_
      rw [ih others]

theorem evalCall_alike {line : Nat} {func : Expr} {arguments : List Argument}
    (alike : ∀ e ∈ func :: arguments.map Argument.value, Alike engine frame declared e) :
    evalCall engine (frame.declaring declared) line func arguments =
      evalCall engine frame line func arguments := by
  obtain ⟨ofFunc, ofArguments⟩ := List.forall_mem_cons.mp alike
  unfold evalCall
  rw [ofFunc]
  refine bind_congr fun f => ?_
  rw [evalArguments_alike [] [] ofArguments]
  rfl

theorem makeFunction_alike {name : String} {first last : Nat} {async : Bool}
    {params : List Param} {result : Option Expr} {body : List Stmt}
    (alike : ∀ e ∈ params.filterMap Param.default, Alike engine frame declared e) :
    makeFunction engine (frame.declaring declared) name first last async params result body =
      makeFunction engine frame name first last async params result body := by
  unfold makeFunction
  congr 1
  refine filterMapM_congr fun param member => ?_
  cases found : param.default with
  | none => rfl
  | some e =>
    have same : Alike engine frame declared e :=
      alike e (List.mem_filterMap.mpr ⟨param, member, found⟩)
    dsimp only
    rw [same]

/-- Only the first source of a comprehension is evaluated outside of it. -/
theorem evalGather_alike (outer : frame.isFunction = false) {line : Nat} {kind : Collection}
    {key value : Expr} {clauses : List Clause}
    (alike : ∀ e ∈ Check.Expr.parts (.gather line kind key value clauses),
      Alike engine frame declared e) :
    evalGather engine (frame.declaring declared) line kind key value clauses =
      evalGather engine frame line kind key value clauses := by
  unfold evalGather
  cases clauses with
  | nil => rfl
  | cons clause rest =>
    obtain ⟨async, target, source, conditions⟩ := clause
    have same : Alike engine frame declared source := alike source (.tail _ (.head _))
    dsimp only
    rw [same]
    obtain ⟨globals, locals, enclosing, isFunction, bound, own, file, path, owner⟩ := frame
    subst outer
    rfl

theorem readName_alike {n : String} (agree : n ∈ declared ↔ n ∈ frame.declared) :
    readName engine (frame.declaring declared) n = readName engine frame n := by
  have same : (frame.declaring declared).declared.contains n = frame.declared.contains n := by
    rw [Bool.eq_iff_iff, List.contains_iff_mem, List.contains_iff_mem]
    exact agree
  unfold readName
  rw [same]
  rfl

theorem writeName_alike {n : String} (v : Value) (agree : n ∈ declared ↔ n ∈ frame.declared) :
    writeName (frame.declaring declared) n v = writeName frame n v := by
  have same : (frame.declaring declared).declared.contains n = frame.declared.contains n := by
    rw [Bool.eq_iff_iff, List.contains_iff_mem, List.contains_iff_mem]
    exact agree
  unfold writeName tableOf
  rw [same]
  rfl

/-- The value of an expression is the same if its parts have the same values, and the names that it
mentions itself are declared alike. -/
theorem evalExpr_alike (outer : frame.isFunction = false) {depth : Nat} {e : Expr}
    (parts : ∀ part ∈ Check.Expr.parts e, Alike engine frame declared part)
    (agree : ∀ n ∈ Binding.mentioned (depth + 1) e, n ∈ declared ↔ n ∈ frame.declared) :
    evalExpr engine (frame.declaring declared) e = evalExpr engine frame e := by
  unfold evalExpr
  cases e with
  | const | yield | await => rfl
  | name line n =>
    exact bind_congr fun _ => readName_alike (agree n (.head _))
  | formatted line pieces =>
    dsimp only
    rw [evalPieces_alike _ parts]
  | tuple line items | list line items | set line items =>
    dsimp only
    rw [evalItems_alike parts]
  | dict line entries =>
    dsimp only
    rw [evalEntries_alike [] parts]
  | unary line op operand | star line operand =>
    have ofOperand : Alike engine frame declared operand := parts _ (.head _)
    dsimp only
    rw [ofOperand]
  | binary line op left right =>
    have ofLeft : Alike engine frame declared left := parts _ (.head _)
    have ofRight : Alike engine frame declared right := parts _ (.tail _ (.head _))
    dsimp only
    rw [ofLeft, ofRight]
  | every line items => exact evalEvery_alike parts
  | either line items => exact evalEither_alike parts
  | compare line first rest =>
    obtain ⟨ofFirst, ofRest⟩ := List.forall_mem_cons.mp parts
    dsimp only
    rw [ofFirst]
    exact bind_congr fun v => evalChain_alike ofRest
  | choose line test yes no =>
    have ofTest : Alike engine frame declared test := parts _ (.head _)
    have ofYes : Alike engine frame declared yes := parts _ (.tail _ (.head _))
    have ofNo : Alike engine frame declared no := parts _ (.tail _ (.tail _ (.head _)))
    dsimp only
    rw [ofTest, ofYes, ofNo]
  | lambda line params body => exact makeFunction_alike parts
  | «attribute» line owner n idLine =>
    have ofOwner : Alike engine frame declared owner := parts _ (.head _)
    dsimp only
    rw [ofOwner]
  | index line owner sub =>
    have ofOwner : Alike engine frame declared owner := parts _ (.head _)
    have ofSub : Alike engine frame declared sub := parts _ (.tail _ (.head _))
    dsimp only
    rw [ofOwner, ofSub]
  | slice line low high step =>
    obtain ⟨⟨ofLow, ofHigh⟩, ofStep⟩ : ((∀ e ∈ low.toList, _) ∧ ∀ e ∈ high.toList, _) ∧
        ∀ e ∈ step.toList, Alike engine frame declared e := by
      rw [← List.forall_mem_append, ← List.forall_mem_append]
      exact parts
    refine bind_alike ?_ fun _ => bind_alike ?_ fun _ => bind_alike ?_ fun _ => rfl
    · cases low with
      | none => rfl
      | some e => exact ofLow e (.head _)
    · cases high with
      | none => rfl
      | some e => exact ofHigh e (.head _)
    · cases step with
      | none => rfl
      | some e => exact ofStep e (.head _)
  | call line func arguments => exact evalCall_alike parts
  | naming line n value =>
    have ofValue : Alike engine frame declared value := parts _ (.head _)
    dsimp only
    rw [ofValue]
    refine bind_congr fun v => ?_
    rw [writeName_alike v (agree n (.head _))]
  | gather line kind key value clauses => exact evalGather_alike outer parts

end Parts

/-- The value of an expression is the same in frames that declare the names it mentions alike. -/
theorem engineOf_alike (outer : frame.isFunction = false) {fuel depth : Nat} (deeper : fuel ≤ depth)
    {e : Expr} (agree : ∀ n ∈ Binding.mentioned depth e, n ∈ declared ↔ n ∈ frame.declared) :
    Alike (engineOf fuel) frame declared e := by
  induction fuel generalizing depth e with
  | zero => rfl
  | succ fuel ih =>
    obtain ⟨depth, rfl⟩ : ∃ k, depth = k + 1 := ⟨depth - 1, by omega⟩
    have parts : ∀ part ∈ Check.Expr.parts e, Alike (engineOf fuel) frame declared part := by
      intro part inside
      exact ih (by omega) fun n mentions => agree n (Binding.mentioned_part inside mentions)
    exact evalExpr_alike outer parts agree

end Run

end NestShell.Code

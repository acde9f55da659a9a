import Mathlib.Data.List.Basic
import NestShell.Proofs.Code.Declared
import NestShell.Proofs.Code.Frames

/-!
# A text as one block

A text is evaluated in two parts, each checked and run by itself: its statements, then the
expression that it ends with. Run as one block, they would be checked together, would share what
they declare, and would run in one frame. The two come to the same, unless the block fails the check
where its statements alone do not, or the expression mentions a name that the block declares global
in a scope whose local variables are its own.
-/

namespace NestShell.Code

/-! ## The check of a block -/

namespace Check

theorem forM_append_of_ok {α : Type} {f : α → Verdict} {as bs : List α}
    (passed : as.forM f = .ok ()) : (as ++ bs).forM f = bs.forM f := by
  induction as with
  | nil => rfl
  | cons a as ih =>
    obtain ⟨first, rest⟩ := andThen_ok.mp passed
    change (f a >>= fun _ => (as ++ bs).forM f) = _
    rw [first, ih rest]
    rfl

theorem passed_of_isOk : ∀ {v : Verdict}, v.isOk = true → v = .ok ()
  | .ok (), _ => rfl

theorem refuseFor_ok {f : Option SyntaxFault} : refuseFor f = .ok () ↔ f = none := by
  cases f with
  | none => exact ⟨fun _ => rfl, fun _ => rfl⟩
  | some f => exact ⟨nofun, nofun⟩

/-! ### Features -/

theorem readFeatures_tail (ss : List Stmt) (begun : Bool) (last found line : Nat) (e : Expr) :
    readFeatures begun last found (ss ++ [.expr line e]) = readFeatures begun last found ss := by
  induction ss generalizing begun last found with
  | nil =>
    rw [List.nil_append, readFeatures]
    exact ite_self _
  | cons s ss ih =>
    rw [List.cons_append, readFeatures, readFeatures]
    simp only [ih]

/-- An expression at the end turns on no features. -/
theorem features_tail (ss : List Stmt) (line : Nat) (e : Expr) :
    features (ss ++ [.expr line e]) = features ss := by
  cases ss with
  | nil =>
    change readFeatures false 0 0 (if isText (.expr line e) then [] else [.expr line e]) = .ok 0
    split
    · rfl
    · exact readFeatures_tail [] false 0 0 line e
  | cons s ss =>
    rw [List.cons_append, features, features]
    split
    · exact readFeatures_tail ss false 0 0 line e
    · exact readFeatures_tail (s :: ss) false 0 0 line e

/-! ### Names -/

/-- Of names, an expression that is a statement says nothing but what it mentions. -/
theorem remarks_of_expr (depth : Nat) (block : Block) (e : Expr) :
    ∃ ms : List Mention, ∀ line, stmtRemarks depth block (.expr line e) = ms.map .mention := by
  cases depth with
  | zero => exact ⟨[], fun _ => rfl⟩
  | succ depth => exact ⟨_, fun _ => rfl⟩

variable {block : Block} {said : List Remark} {ms : List Mention}

/-- Whether a mention is at fault does not depend on what was said before. -/
theorem firstFault_mentions (earlier : List Remark) (ms : List Mention) :
    firstFault block earlier (ms.map .mention) = ms.findSome? (mentionFault block) := by
  induction ms generalizing earlier with
  | nil => rfl
  | cons m ms ih =>
    rw [List.map_cons, firstFault, List.findSome?_cons, ih, remarkFault]
    cases mentionFault block m <;> rfl

theorem firstFault_append {earlier rest : List Remark}
    (none : firstFault block earlier said = none) :
    firstFault block earlier (said ++ rest) = firstFault block (said.reverse ++ earlier) rest := by
  induction said generalizing earlier with
  | nil => rfl
  | cons r said ih =>
    unfold firstFault at none
    rw [List.cons_append, firstFault]
    cases fault : remarkFault block earlier r with
    | some f =>
      rw [fault] at none
      cases none
    | none =>
      rw [fault] at none
      dsimp only
      rw [ih none, List.reverse_cons, List.append_assoc]
      rfl

theorem isDeclared_mentions (kind : Outside) (n : String) :
    isDeclared (said ++ ms.map .mention) kind n = isDeclared said kind n := by
  unfold isDeclared
  have unsaid : ms.any (fun _ => false) = false := List.any_eq_false.mpr fun _ _ => nofun
  rw [List.any_append, List.any_map]
  exact (congrArg _ unsaid).trans (Bool.or_false _)

/-- A program that leaves a name to functions around it is at fault. -/
theorem nonlocalFault_declared {outer : List String} {n : String}
    (declared : isDeclared said .nonlocal n = true) :
    nonlocalFault .program outer said n ≠ none := by
  unfold nonlocalFault
  rw [declared]
  split
  · next none => exact absurd none Bool.false_ne_true
  · split
    · exact Option.some_ne_none _
    · exact Option.some_ne_none _

theorem mem_names_of_declared {kind : Outside} {n : String}
    (declared : isDeclared said kind n = true) : n ∈ said.filterMap Remark.name? := by
  obtain ⟨r, member, declares⟩ := List.any_eq_true.mp declared
  cases r with
  | declares line k m =>
    obtain ⟨-, same⟩ := Bool.and_eq_true_iff.mp declares
    exact List.mem_filterMap.mpr ⟨_, member, congrArg some (beq_iff_eq.mp same)⟩
  | mention | loads | loadsAll | parameter | annotates => cases declares

theorem undeclared_of_passed (passed : outsideFault .program [] said = none) (n : String) :
    isDeclared said .nonlocal n = false := by
  by_contra declared
  have declared := Bool.not_eq_false _ |>.mp declared
  have member := List.mem_eraseDups.mpr (mem_names_of_declared declared)
  exact nonlocalFault_declared declared (List.findSome?_eq_none_iff.mp passed n member)

theorem nonlocalFault_undeclared {outer : List String} {n : String}
    (undeclared : isDeclared said .nonlocal n = false) :
    nonlocalFault block outer said n = none := by
  unfold nonlocalFault
  rw [undeclared]
  rfl

theorem definitions_expr (depth line : Nat) (e : Expr) : definitions depth (.expr line e) = [] := by
  cases depth <;> rfl

/-- Behind names that pass the check, those of an expression are faulted as they are alone. -/
theorem checkNames_tail (e : Expr) : ∃ f : Option SyntaxFault, ∀ (ss : List Stmt) (line : Nat),
    checkNames ss = .ok () → checkNames (ss ++ [.expr line e]) = refuseFor f := by
  obtain ⟨ms, remarks⟩ := remarks_of_expr deepest .program e
  refine ⟨ms.findSome? (mentionFault .program), fun ss line passed => ?_⟩
  obtain ⟨names, rest⟩ := andThen_ok.mp passed
  obtain ⟨outside, inner⟩ := andThen_ok.mp rest
  have undeclared := undeclared_of_passed (refuseFor_ok.mp outside)
  have noFault : outsideFault .program []
      (ss.flatMap (stmtRemarks deepest .program) ++ ms.map .mention) = none := by
    refine List.findSome?_eq_none_iff.mpr fun n _ => nonlocalFault_undeclared ?_
    exact (isDeclared_mentions _ n).trans (undeclared n)
  unfold checkNames
  dsimp only
  rw [List.flatMap_append, List.flatMap_append, List.flatMap_singleton, List.flatMap_singleton,
    remarks, definitions_expr, List.append_nil, firstFault_append (refuseFor_ok.mp names),
    firstFault_mentions, noFault, inner]
  cases ms.findSome? (mentionFault .program) <;> rfl

/-! ### Whole programs -/

theorem checkStmt_expr (depth line line' : Nat) {place place' : Place} (e : Expr)
    (same : place.toSite = place'.toSite) :
    checkStmt depth place (.expr line e) = checkStmt depth place' (.expr line' e) := by
  cases depth with
  | zero => rfl
  | succ depth =>
    unfold checkStmt
    rw [same]
    rfl

/-- Behind statements that pass the check, an expression is judged as it is alone. -/
theorem program_tail {ss : List Stmt} {line : Nat} {e : Expr} (checked : program ss = .ok ()) :
    program (ss ++ [.expr line e]) = expression e := by
  obtain ⟨f, tail⟩ := checkNames_tail e
  obtain ⟨last, found, checked⟩ := bind_ok.mp checked
  obtain ⟨names, statements⟩ := andThen_ok.mp checked
  have alone : checkNames [.expr e.line e] = refuseFor f := tail [] e.line rfl
  have noFeatures : features [.expr e.line e] = .ok 0 := features_tail [] e.line e
  have judged : ofBlock deepest { features := last } (ss ++ [.expr line e]) =
      ofBlock deepest { features := 0 } [.expr e.line e] := by
    unfold ofBlock
    rw [forM_append_of_ok statements]
    exact congrArg (· >>= fun _ => pure ()) (checkStmt_expr deepest line e.line e rfl)
  unfold expression program
  rw [features_tail, found, noFeatures, tail ss line names, alone]
  exact congrArg (refuseFor f >>= fun _ => ·) judged

theorem program_expr (line : Nat) (e : Expr) : program [.expr line e] = expression e :=
  have nothing : program [] = .ok () := rfl
  program_tail nothing

end Check

/-! ## Blocks -/

/-- The program that a source writes. Line ends around it are taken away, and what is blank is not
read. -/
structure Writes (source : String) (program : List Stmt) : Prop where
  filled : Text.isAllBlank (Text.trimOf ['\n'] source) = false
  clean : Text.containsChar '\x00' (Text.trimOf ['\n'] source) = false
  read : Grammar.readProgram (Text.trimOf ['\n'] source) = .ok program

namespace Scope

variable {s : Scope} {ss : List Stmt} {line : Nat} {e : Expr}

/-- Statements that can be parted from the expression behind them: the check says of the whole block
what it says of the statements; where the scope has local variables of its own, the expression
mentions no name that the block declares global; and a text that is all of the block does not
describe it. -/
structure Parts (s : Scope) (ss : List Stmt) (line : Nat) (e : Expr) : Prop where
  verdict : ss = [] ∨ Check.program (ss ++ [.expr line e]) = Check.program ss
  apart : ss = [] ∨ s.locals = s.globals ∨
    ∀ n ∈ Binding.mentioned Check.deepest e, n ∉ Binding.ofProgram (ss ++ [.expr line e])
  undescribed : ss = [] → Run.docOf [.expr line e] = .none

/-- Runs statements and an expression behind them as one block, which gives the value that the
expression has there. -/
def runBlock (s : Scope) (ss : List Stmt) (line : Nat) (e : Expr) : Run Value := do
  let block := ss ++ [.expr line e]
  Run.orThrow (Check.program block)
  let frame := s.frame block
  Run.prepare frame block
  Run.entering frame (Run.execThenEval frame ss e)

/-- What the block does is what the run of its statements does, the expression being one of them. -/
theorem runBlock_effect (s : Scope) (ss : List Stmt) (line : Nat) (e : Expr) :
    discard (s.runBlock ss line e) = Run.runBody s (ss ++ [.expr line e]) := by
  unfold runBlock Run.runBody
  dsimp only
  rw [Run.discard_bind]
  refine bind_congr fun _ => ?_
  rw [Run.discard_bind]
  exact bind_congr fun _ => Run.entering_effect _ ss line e

/-! ## The parts of a block -/

theorem docOf_cons (first : Stmt) (ss ts : List Stmt) :
    Run.docOf (first :: ss) = Run.docOf (first :: ts) := by
  cases first with
  | expr line e =>
    cases e with
    | const line v => cases v <;> rfl
    | _ => rfl
  | _ => rfl

theorem annotates_expr (depth line : Nat) (e : Expr) :
    Binding.annotates depth (.expr line e) = false := by
  cases depth <;> rfl

/-- An expression at the end of a block leaves nothing to be readied for. -/
theorem prepare_tail (frame : Frame) (described : ss = [] → Run.docOf [.expr line e] = .none) :
    Run.prepare frame (ss ++ [.expr line e]) = Run.prepare frame ss := by
  have hints : (ss ++ [Stmt.expr line e]).any (Binding.annotates Check.deepest) =
      ss.any (Binding.annotates Check.deepest) := by
    rw [List.any_append, List.any_cons, annotates_expr, List.any_nil, Bool.or_false, Bool.or_false]
  have doc : Run.docOf (ss ++ [.expr line e]) = Run.docOf ss := by
    cases ss with
    | nil => exact described rfl
    | cons first rest => exact docOf_cons first _ rest
  unfold Run.prepare Run.bindHints Run.bindDoc
  rw [hints, doc]

/-- The statements of a block run in the frame of the block as they do in their own. -/
theorem frame_statements (several : ss ≠ []) (parts : s.Parts ss line e) :
    s.frame ss = s.frame (ss ++ [.expr line e]) := by
  unfold frame
  rcases parts.apart.resolve_left several with same | apart
  · rw [if_pos (beq_iff_eq.mpr same), if_pos (beq_iff_eq.mpr same)]
  · have none : Binding.ofProgram [.expr line e] = [] := List.eq_nil_iff_forall_not_mem.mpr
      fun n declared => apart n (Binding.mentioned_of_ofProgram declared)
        (Binding.ofProgram_append_right declared)
    rw [Binding.ofProgram_append_nil none]

/-- The expression has the value in the frame of the block that it has in its own. -/
theorem eval_expression (parts : s.Parts ss line e) :
    engine.eval (s.frame [.expr e.line e]) e = engine.eval (s.frame (ss ++ [.expr line e])) e := by
  suffices alike : Run.Alike engine (s.frame (ss ++ [.expr line e]))
      (s.frame [.expr e.line e]).declared e from alike
  refine Run.engineOf_alike rfl (Nat.le_succ 1000000) fun n mentions => ?_
  unfold frame
  rw [Binding.ofProgram_expr e.line line]
  rcases parts.apart with rfl | same | apart
  · rfl
  · rw [if_pos (beq_iff_eq.mpr same), if_pos (beq_iff_eq.mpr same)]
  · have unsaid : n ∉ Binding.ofProgram (ss ++ [.expr line e]) := apart n mentions
    dsimp only
    split
    · rfl
    · exact iff_of_false (fun declared => unsaid (Binding.ofProgram_append_right declared)) unsaid

theorem runTail_eq (sound : Check.expression e = .ok ()) (parts : s.Parts ss line e) :
    Run.runTail s e = Run.entering (s.frame (ss ++ [.expr line e])) (do
      Run.atLine e.line
      engine.eval (s.frame (ss ++ [.expr line e])) e) := by
  unfold Run.runTail
  dsimp only
  rw [sound, eval_expression parts]
  rfl

theorem splitTail_concat (ss : List Stmt) (line : Nat) (e : Expr) :
    Run.splitTail (ss ++ [.expr line e]) = (ss, some e) := by
  unfold Run.splitTail
  rw [List.getLast?_concat, List.dropLast_concat]

/-- Statements and then the expression, each checked and run by itself, are the block. -/
theorem runBody_runTail (several : ss ≠ []) (parts : s.Parts ss line e) :
    (do
      Run.runBody s ss
      Run.runTail s e) = s.runBlock ss line e := by
  have verdict := parts.verdict.resolve_left several
  unfold runBlock Run.runBody
  dsimp only
  rw [frame_statements several parts, verdict, prepare_tail _ parts.undescribed]
  cases passed : Check.program ss with
  | error f =>
    funext m
    rfl
  | ok u =>
    have sound : Check.expression e = .ok () :=
      (Check.program_tail passed).symm.trans (verdict.trans passed)
    rw [bind_assoc, bind_assoc, runTail_eq sound parts]
    refine bind_congr fun _ => bind_congr fun _ => ?_
    funext m
    exact Run.entering_again (Run.program_completes passed) m

/-- An expression by itself is a block of no other statements. -/
theorem runTail_alone (parts : s.Parts [] line e) : Run.runTail s e = s.runBlock [] line e := by
  have sameFrame : s.frame [.expr e.line e] = s.frame [.expr line e] := by
    unfold frame
    rw [Binding.ofProgram_expr e.line line]
  have ready : Run.prepare (s.frame [.expr line e]) [.expr line e] = pure () :=
    prepare_tail _ parts.undescribed
  unfold Run.runTail runBlock
  dsimp only
  rw [List.nil_append, Check.program_expr, sameFrame, ready]
  rfl

theorem runText_eq_runBlock {text : String}
    (reads : Grammar.readProgram text = .ok (ss ++ [.expr line e]))
    (parts : s.Parts ss line e) : s.runText text = s.runBlock ss line e := by
  have readAs : Run.readText text = pure (ss ++ [.expr line e]) := by
    unfold Run.readText
    rw [reads]
  unfold runText
  rw [readAs, pure_bind, splitTail_concat]
  dsimp only
  cases ss with
  | nil => exact runTail_alone parts
  | cons first rest => exact runBody_runTail (List.cons_ne_nil first rest) parts

/-! ## Evaluation -/

theorem evaluate_filled {source : String}
    (filled : Text.isAllBlank (Text.trimOf ['\n'] source) = false)
    (clean : Text.containsChar '\x00' (Text.trimOf ['\n'] source) = false) :
    s.evaluate source = Run.reporting (s.runText (Text.trimOf ['\n'] source)) := by
  unfold evaluate
  dsimp only
  rw [filled, clean]
  rfl

theorem evaluate_eq_runBlock {source : String} (writes : Writes source (ss ++ [.expr line e]))
    (parts : s.Parts ss line e) : s.evaluate source = Run.reporting (s.runBlock ss line e) := by
  rw [evaluate_filled writes.filled writes.clean, runText_eq_runBlock writes.read parts]

end Scope

/-! ## Sources that write no program -/

/-- The machine as it was, but for an exception that may be new. -/
def Machine.Untouched (m t : Machine) : Prop :=
  t = m ∨ ∃ x : Exception, t = { m with heap := m.heap.push (.error x) }

/-- The machine in which a run ends. -/
def Run.endOf {α : Type} : EStateM.Result Fault Machine α → Machine
  | .ok _ t => t
  | .error _ t => t

/-- A text that cannot be read stops the run before anything else is done. -/
theorem Scope.runText_unread (s : Scope) {text : String}
    (unread : ∀ program, Grammar.readProgram text ≠ .ok program) (m : Machine) :
    s.runText text m = .error .outOfFuel m ∨ ∃ x : Exception, s.runText text m =
      .error (.raised m.heap.size) { m with heap := m.heap.push (.error x) } := by
  unfold Scope.runText Run.readText
  cases read : Grammar.readProgram text with
  | ok program => exact absurd read (unread program)
  | error failure =>
    cases failure with
    | incomplete => exact .inr ⟨_, rfl⟩
    | fault f => exact .inr ⟨_, rfl⟩
    | outOfFuel => exact .inl rfl

theorem Scope.evaluate_untouched (s : Scope) {source : String}
    (unwritten : ∀ program, ¬ Writes source program) (m : Machine) :
    m.Untouched (Run.endOf (s.evaluate source m)) := by
  cases filled : Text.isAllBlank (Text.trimOf ['\n'] source) with
  | true =>
    unfold Scope.evaluate
    rw [filled]
    exact .inl rfl
  | false =>
    cases clean : Text.containsChar '\x00' (Text.trimOf ['\n'] source) with
    | true =>
      unfold Scope.evaluate
      rw [filled, clean]
      exact .inr ⟨_, rfl⟩
    | false =>
      have unread (program : List Stmt) :
          Grammar.readProgram (Text.trimOf ['\n'] source) ≠ .ok program :=
        fun read => unwritten program ⟨filled, clean, read⟩
      rw [evaluate_filled filled clean]
      rcases s.runText_unread unread m with fuel | ⟨x, raised⟩
      · have stopped : (do return Evaluation.value (← s.runText (Text.trimOf ['\n'] source)) :
            Run Evaluation) m = .error .outOfFuel m := by
          rw [Run.bind_apply, fuel]
        unfold Run.reporting Run.catchingOnly Run.catching
        rw [stopped]
        exact .inl rfl
      · have stopped : (do return Evaluation.value (← s.runText (Text.trimOf ['\n'] source)) :
            Run Evaluation) m =
            .error (.raised m.heap.size) { m with heap := m.heap.push (.error x) } := by
          rw [Run.bind_apply, raised]
        unfold Run.reporting
        rw [Run.catchingOnly_raised stopped]
        refine .inr ⟨x, ?_⟩
        split <;> rfl

/-! ## The two ways compared -/

/-- Whether a source writes statements and an expression behind them with a property. -/
def endsIn (source : String) (p : List Stmt → Nat → Expr → Bool) : Bool :=
  let text := Text.trimOf ['\n'] source
  !Text.isAllBlank text && !Text.containsChar '\x00' text &&
    match Grammar.readProgram text with
    | .ok program =>
      match program.getLast? with
      | some (.expr line e) => p program.dropLast line e
      | _ => false
    | .error _ => false

theorem writes_of_endsIn (source : String) {p : List Stmt → Nat → Expr → Bool}
    (found : endsIn source p = true) :
    ∃ ss line e, Writes source (ss ++ [.expr line e]) ∧ p ss line e = true := by
  unfold endsIn at found
  dsimp only at found
  obtain ⟨readable, found⟩ := Bool.and_eq_true_iff.mp found
  obtain ⟨filled, clean⟩ := Bool.and_eq_true_iff.mp readable
  cases read : Grammar.readProgram (Text.trimOf ['\n'] source) with
  | error failure =>
    rw [read] at found
    cases found
  | ok program =>
    rw [read] at found
    dsimp only at found
    split at found
    · next line e last =>
      have whole : program.dropLast ++ [.expr line e] = program :=
        List.dropLast_append_getLast? _ last
      refine ⟨program.dropLast, line, e, ⟨?_, ?_, ?_⟩, found⟩
      · exact Bool.not_eq_true' _ |>.mp filled
      · exact Bool.not_eq_true' _ |>.mp clean
      · rw [whole, read]
    · cases found

/-- The global variables, and those of a session on a number. -/
def tables : Machine := { heap := #[.names {} none, .names ⟨[("x", .int 1)]⟩ (some (.int 5))] }

def outer : Scope := { receiver := .none, globals := 0, locals := 0 }

def inner : Scope := { receiver := .int 5, globals := 0, locals := 1 }

/-- An expression that the check refuses is refused only after the statements have run, where the
block is refused before. -/
theorem Scope.refused_late {s : Scope} {source : String} {ss : List Stmt} {line : Nat} {e : Expr}
    {f : SyntaxFault} (writes : Writes source (ss ++ [.expr line e])) (several : ss ≠ [])
    (checked : Check.program ss = .ok ()) (refused : Check.expression e = .error f) :
    s.evaluate source = Run.reporting (do
        Run.runBody s ss
        Run.throwSyntax f) ∧
      s.runBlock ss line e = Run.throwSyntax f := by
  constructor
  · have readAs : Run.readText (Text.trimOf ['\n'] source) = pure (ss ++ [.expr line e]) := by
      unfold Run.readText
      rw [writes.read]
    have tail : Run.runTail s e = Run.throwSyntax f := by
      unfold Run.runTail
      rw [refused]
      rfl
    rw [evaluate_filled writes.filled writes.clean]
    unfold runText
    rw [readAs, pure_bind, splitTail_concat]
    dsimp only
    rw [tail]
    cases ss with
    | nil => exact absurd rfl several
    | cons first rest => rfl
  · have whole : Check.program (ss ++ [.expr line e]) = .error f := by
      rw [Check.program_tail checked, refused]
    unfold runBlock
    dsimp only
    rw [whole]
    rfl

/-- Whether a table of variables has a name. -/
def Machine.binds (m : Machine) (a : Nat) (n : String) : Bool :=
  match m.heap[a]? with
  | some (.names t _) => t.contains n
  | _ => false

/-- The number that an evaluation gives. -/
def numberOf : EStateM.Result Fault Machine Evaluation → Option Int
  | .ok (.value (.int n)) _ => some n
  | _ => none

/-- A text that declares a name global and ends with that name gives the local variable, where the
block gives the global one. -/
theorem declared_for_statements : ∃ ss line e,
    Writes "global x; x = 2; x" (ss ++ [.expr line e]) ∧
      numberOf (inner.evaluate "global x; x = 2; x" tables) = some 1 ∧
      numberOf (Run.reporting (inner.runBlock ss line e) tables) = some 2 := by
  obtain ⟨ss, line, e, writes, found⟩ := writes_of_endsIn "global x; x = 2; x"
    (p := fun ss line e =>
      decide (numberOf (inner.evaluate "global x; x = 2; x" tables) = some 1) &&
      decide (numberOf (Run.reporting (inner.runBlock ss line e) tables) = some 2))
    (by decide +kernel)
  obtain ⟨evaluated, run⟩ := Bool.and_eq_true_iff.mp found
  exact ⟨ss, line, e, writes, of_decide_eq_true evaluated, of_decide_eq_true run⟩

end NestShell.Code

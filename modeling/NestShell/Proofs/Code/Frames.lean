import NestShell.Proofs.Code.Flow
import NestShell.Proofs.Shell.Failure

/-!
# One frame, entered once or twice

The code of a frame runs piece by piece, and each piece leaves the depth of calls as it found it.
So a frame that was left between two pieces of its code can be entered again, as if it had not been
left; only the line is set anew.
-/

namespace NestShell.Code

namespace Machine

/-- The machine inside a frame that was just entered. -/
def entered (m : Machine) : Machine := { m with depth := m.depth + 1 }

/-- The machine behind the frame, within which it came to `t`. -/
def behind (m t : Machine) : Machine := { t with line := m.line, depth := m.depth }

end Machine

namespace Run

variable {α β : Type} {frame : Frame} {m t : Machine}

/-! ## Pieces of a frame -/

/-- A run that ends with a value at the depth at which it began. -/
def Level (p : Run α) : Prop := ∀ m t a, p m = .ok a t → t.depth = m.depth

theorem level_inPlace (p : Run α) : Level (inPlace p) := by
  intro m t a ran
  obtain ⟨u, -, rfl⟩ := inPlace_ok ran
  rfl

theorem level_execAll (engine : Engine) (ss : List Stmt) : Level (execAll engine frame ss) := by
  induction ss with
  | nil =>
    intro m t a ran
    cases ran
    rfl
  | cons s ss ih =>
    intro m t a ran
    unfold execAll at ran
    rw [bind_apply] at ran
    cases first : inPlace (execStmt engine frame s) m with
    | error f u =>
      rw [first] at ran
      cases ran
    | ok flow u =>
      rw [first] at ran
      have same := level_inPlace _ m u flow first
      cases flow with
      | next => exact (ih u t a ran).trans same
      | ret v => cases ran; exact same
      | stop => cases ran; exact same
      | again => cases ran; exact same

/-! ## Two runs of one frame -/

theorem discard_apply (p : Run α) (m : Machine) :
    discard p m = match p m with
      | .ok _ t => .ok .unit t
      | .error e t => .error e t := by
  change EStateM.map (Function.const α PUnit.unit) p m = _
  unfold EStateM.map
  cases p m <;> rfl

theorem inFrame_ok {marks : Option String} {p : Run α} {a : α} (ran : p m.entered = .ok a t) :
    inFrame marks p m = .ok a (m.behind t) := by
  unfold inFrame
  unfold Machine.entered at ran
  rw [ran]
  rfl

theorem discard_bind (p : Run α) (f : α → Run β) :
    discard (p >>= f) = p >>= fun a => discard (f a) := by
  funext m
  rw [discard_apply, bind_apply, bind_apply]
  cases p m with
  | ok a t => exact (discard_apply (f a) t).symm
  | error f t => rfl

/-- How a frame is left at a stop does not depend on what its code was to give. -/
theorem inFrame_error (marks : Option String) {p : Run α} {q : Run β} {f : Fault}
    (stopped : p m.entered = .error f t) (alike : q m.entered = .error f t) :
    ∃ u, inFrame marks p m = .error f u ∧ inFrame marks q m = .error f u := by
  unfold inFrame
  unfold Machine.entered at stopped alike
  rw [stopped, alike]
  cases f <;> exact ⟨_, rfl, rfl⟩

/-- Runs that go on alike inside a frame do so outside, where line and depth are the same. -/
theorem inFrame_congr {marks : Option String} {p q : Run α} (line : t.line = m.line)
    (depth : t.depth = m.depth) (same : p t.entered = q m.entered) :
    inFrame marks p t = inFrame marks q m := by
  unfold inFrame
  unfold Machine.entered at same
  rw [same, line, depth]

theorem entering_apply (frame : Frame) (p : Run α) (m : Machine) :
    entering frame p m =
      if m.depth ≥ deepestCall then raise "RecursionError" "maximum recursion depth exceeded" m
      else inFrame (markedFile frame.file) p m := by
  change (if m.depth ≥ deepestCall then
      (raise "RecursionError" "maximum recursion depth exceeded" >>= fun _ : Unit =>
        inFrame (markedFile frame.file) p)
    else inFrame (markedFile frame.file) p) m = _
  split <;> rfl

/-- Runs statements and then an expression, in one frame. -/
def execThenEval (frame : Frame) (ss : List Stmt) (e : Expr) : Run Value := do
  match ← execAll Code.engine frame ss with
  | .next =>
    atLine e.line
    Code.engine.eval frame e
  | _ => return .none

theorem execThenEval_next {ss : List Stmt} {e : Expr}
    (ran : execAll Code.engine frame ss m = .ok .next t) :
    execThenEval frame ss e m = Code.engine.eval frame e { t with line := e.line } := by
  unfold execThenEval
  rw [bind_apply, ran]
  rfl

theorem execThenEval_error {ss : List Stmt} {e : Expr} {f : Fault}
    (stopped : execAll Code.engine frame ss m = .error f t) :
    execThenEval frame ss e m = .error f t := by
  unfold execThenEval
  rw [bind_apply, stopped]

theorem execAll_cons (engine : Engine) (s : Stmt) (ss : List Stmt) :
    execAll engine frame (s :: ss) = (do
      match ← inPlace (execStmt engine frame s) with
      | .next => execAll engine frame ss
      | flow => return flow) := rfl

theorem execAll_append (engine : Engine) (frame : Frame) (ss ts : List Stmt) :
    execAll engine frame (ss ++ ts) = (do
      match ← execAll engine frame ss with
      | .next => execAll engine frame ts
      | flow => return flow) := by
  induction ss with
  | nil => rfl
  | cons s ss ih =>
    rw [List.cons_append, execAll_cons, execAll_cons, bind_assoc]
    refine bind_congr fun flow => ?_
    cases flow with
    | next => exact ih
    | ret v => rfl
    | stop => rfl
    | again => rfl

theorem execAll_singleton (frame : Frame) (line : Nat) (e : Expr) (m : Machine) :
    execAll Code.engine frame [.expr line e] m =
      match Code.engine.eval frame e { m with line := e.line } with
        | .ok _ t => .ok .next { t with depth := m.depth }
        | .error f t => .error f t := by
  rw [execAll_cons, bind_apply]
  have inside : execStmt Code.engine frame (.expr line e) m =
      match Code.engine.eval frame e { m with line := e.line } with
        | .ok _ t => .ok .next t
        | .error f t => .error f t := by
    change (Code.engine.eval frame e >>= fun _ => pure Flow.next) { m with line := e.line } = _
    rw [bind_apply]
    cases Code.engine.eval frame e { m with line := e.line } <;> rfl
  unfold inPlace
  rw [inside]
  cases Code.engine.eval frame e { m with line := e.line } <;> rfl

/-- A run of statements of which the last is an expression does what `execThenEval` does. -/
theorem execAll_expr (ss : List Stmt) (line : Nat) (e : Expr) (m : Machine) :
    (∃ v flow t depth, execThenEval frame ss e m = .ok v t ∧
      execAll Code.engine frame (ss ++ [.expr line e]) m = .ok flow { t with depth := depth }) ∨
    ∃ f t, execThenEval frame ss e m = .error f t ∧
      execAll Code.engine frame (ss ++ [.expr line e]) m = .error f t := by
  have split := congrFun (execAll_append Code.engine frame ss [.expr line e]) m
  rw [bind_apply] at split
  unfold execThenEval
  rw [split, bind_apply]
  cases execAll Code.engine frame ss m with
  | error f t => exact .inr ⟨f, t, rfl, rfl⟩
  | ok flow t =>
    cases flow with
    | next =>
      have last := execAll_singleton frame line e t
      change (∃ v flow u depth, Code.engine.eval frame e { t with line := e.line } = .ok v u ∧
          execAll Code.engine frame [.expr line e] t = .ok flow { u with depth := depth }) ∨
        ∃ f u, Code.engine.eval frame e { t with line := e.line } = .error f u ∧
          execAll Code.engine frame [.expr line e] t = .error f u
      rw [last]
      cases Code.engine.eval frame e { t with line := e.line } with
      | ok v u => exact .inl ⟨v, .next, u, t.depth, rfl, rfl⟩
      | error f u => exact .inr ⟨f, u, rfl, rfl⟩
    | ret v => exact .inl ⟨.none, .ret v, t, t.depth, rfl, rfl⟩
    | stop => exact .inl ⟨.none, .stop, t, t.depth, rfl, rfl⟩
    | again => exact .inl ⟨.none, .again, t, t.depth, rfl, rfl⟩

/-- Code that leads on can be left and its frame be entered again: the line is set anew, and the
depth is the same. -/
theorem entering_again {ss : List Stmt} {e : Expr}
    (leadsOn : Gives (· = .next) (execAll Code.engine frame ss)) (m : Machine) :
    (do
      discard (entering frame (execAll Code.engine frame ss))
      entering frame do
        atLine e.line
        Code.engine.eval frame e) m =
      entering frame (execThenEval frame ss e) m := by
  rw [bind_apply, discard_apply, entering_apply frame (execThenEval frame ss e),
    entering_apply frame (execAll Code.engine frame ss)]
  by_cases deep : m.depth ≥ deepestCall
  · rw [if_pos deep, if_pos deep]
    rfl
  · rw [if_neg deep, if_neg deep]
    cases ran : execAll Code.engine frame ss m.entered with
    | error f t =>
      have stopped : execThenEval frame ss e m.entered = .error f t := execThenEval_error ran
      obtain ⟨u, first, whole⟩ := inFrame_error (markedFile frame.file) ran stopped
      rw [first, whole]
    | ok flow t =>
      obtain rfl : flow = .next := leadsOn _ t flow ran
      have same : t.depth = m.depth + 1 := level_execAll Code.engine ss _ t _ ran
      rw [inFrame_ok ran]
      dsimp only
      rw [entering_apply, if_neg (show ¬ (m.behind t).depth ≥ deepestCall from deep)]
      refine inFrame_congr rfl rfl ?_
      rw [execThenEval_next ran]
      change Code.engine.eval frame e { t with line := e.line, depth := m.depth + 1 } =
        Code.engine.eval frame e { t with line := e.line }
      rw [← same]

theorem entering_effect (frame : Frame) (ss : List Stmt) (line : Nat) (e : Expr) :
    discard (entering frame (execThenEval frame ss e)) =
      discard (entering frame (execAll Code.engine frame (ss ++ [.expr line e]))) := by
  funext m
  rw [discard_apply, discard_apply, entering_apply, entering_apply]
  by_cases deep : m.depth ≥ deepestCall
  · rw [if_pos deep, if_pos deep]
    rfl
  · rw [if_neg deep, if_neg deep]
    rcases execAll_expr ss line e m.entered with
      ⟨v, flow, t, depth, value, effect⟩ | ⟨f, t, stopped, alike⟩
    · rw [inFrame_ok value, inFrame_ok effect]
      rfl
    · obtain ⟨u, first, second⟩ :=
        inFrame_error (markedFile frame.file) stopped alike
      rw [first, second]

end Run

end NestShell.Code

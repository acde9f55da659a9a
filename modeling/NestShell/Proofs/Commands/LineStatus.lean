import NestShell.Proofs.Commands.Unfed
import NestShell.Proofs.Shell.Containment

/-!
# The status that a line leaves

A line begins with the status zero. Each of the ways in which it can fail sets another status, and
so does an exception that a body reports without stopping. Nothing else does, as long as the body of
the line leaves the status as it finds it, which it does where no other line is handled meanwhile.
-/

namespace NestShell.Shell

open NestShell.Code

/-! ## Work without a report -/

/-- No failure has been noted. -/
def NoReport (d e : Desk) : Prop := e.status = d.status ∧ e.lastException = d.lastException

instance : IsPreorder Desk NoReport where
  refl _ := ⟨rfl, rfl⟩
  trans _ _ _ first second := ⟨second.1.trans first.1, second.2.trans first.2⟩

section Desk

variable {α : Type}

instance noReport_ofRun (p : Run α) : Stays NoReport (DeskM.ofRun p) := by
  refine ⟨fun d => ?_⟩
  rw [ofRun_apply]
  cases p d.lent <;> exact ⟨rfl, rfl⟩

instance noReport_write (s : String) : Stays NoReport (DeskM.write s) := .modify fun _ => ⟨rfl, rfl⟩

instance noReport_puts (s : String) : Stays NoReport (DeskM.puts s) := by
  unfold DeskM.puts
  infer_instance

instance noReport_rendered (v : Value) : Stays NoReport (DeskM.rendered v) := by
  unfold DeskM.rendered
  infer_instance

instance noReport_errorText (x : Nat) : Stays NoReport (DeskM.errorText x) := by
  unfold DeskM.errorText
  infer_instance

instance noReport_failureText (c : Command) (e : Stop) : Stays NoReport (failureText c e) := by
  cases e <;> unfold failureText <;> infer_instance

/-- Showing a value is no report. -/
theorem showValue_noReport (v : Value) :
    Stays (fun s t : State => NoReport s.desk t.desk) (showValue v) := by
  refine ⟨fun s => ?_⟩
  have kept : Stays NoReport (modify fun d => { d with lastResult := v } : DeskM PUnit) :=
    .modify fun _ => ⟨rfl, rfl⟩
  let shows : DeskM PUnit := do
    modify fun d => { d with lastResult := v }
    DeskM.ofRun (s.stack.top.scope.setLocal "_" v)
    DeskM.puts ("=> " ++ (← DeskM.rendered v))
  have quiet : Stays NoReport shows := inferInstance
  unfold showValue
  rw [bind_apply, get_apply]
  dsimp only
  rw [bind_apply, note_apply]
  change NoReport s.desk (endState (ShellM.ofDesk shows _)).desk
  rw [ofDesk_apply]
  cases ran : shows s.desk with
  | ok _ d => exact quiet.of_ok ran
  | error e d => exact quiet.of_error ran

end Desk

/-! ## What a line leaves -/

/-- The line fails in one of the ways in which lines do. -/
def State.FailsBy (s : State) (line : String) : Prop := ∃ u p, Fails Commands.perform s line u p

/-- A status that tells whether the line failed or reported an exception. -/
def State.Tells (s : State) (line : String) (t : State) : Prop :=
  t.desk.status = 0 ∧ t.desk.lastException = none ∨
    t.desk.status ≠ 0 ∧ (s.FailsBy line ∨ t.desk.lastException ≠ none)

section Lines

variable {s t u : State} {line : String} {signal : Option Signal}

theorem State.marked_status (calm : s.desk.lastException = none) (t : State) :
    (s.marked t).desk.status = (if t.desk.lastException = none then t.desk.status else 1) ∧
      (s.marked t).desk.lastException = t.desk.lastException := by
  unfold State.marked
  rw [calm]
  by_cases none_ : t.desk.lastException = none
  · rw [if_neg (by simp [none_]), if_pos none_]
    exact ⟨rfl, rfl⟩
  · rw [if_pos (by simp [none_]), if_neg none_]
    exact ⟨rfl, rfl⟩

/-- A body with status zero leaves a status that tells whether it reported an exception. -/
theorem tells_of_marked (calm : s.desk.lastException = none) (idle : u.desk.status = 0)
    (quiet : NoReport (s.marked u).desk t.desk) : s.Tells line t := by
  obtain ⟨status, last⟩ := s.marked_status calm u
  unfold State.Tells
  rw [quiet.1, quiet.2, status, last, idle]
  by_cases none_ : u.desk.lastException = none
  · exact .inl ⟨by rw [if_pos none_], none_⟩
  · exact .inr ⟨by rw [if_neg none_]; decide, .inr none_⟩

/-- What a text leaves that is evaluated. -/
theorem tells_of_evaluates {source : String} (calm : s.desk.lastException = none)
    (evaluates : s.Evaluates line source u) (done : evaluation source u = .ok .unit t) :
    s.Tells line t := by
  have start : NoReport s.begun.desk u.desk := by
    rw [evaluates.start]
    exact ⟨rfl, rfl⟩
  have quiet (m : Machine) {v : State} (quiet : NoReport (u.after m).desk v.desk) :
      s.Tells line v := by
    have same : NoReport s.begun.desk v.desk := IsTrans.trans _ (u.after m).desk _ start quiet
    exact .inl ⟨same.1, same.2.trans calm⟩
  rw [evaluation_apply] at done
  cases ran : u.stack.top.scope.evaluate source u.desk.lent with
  | error f m =>
    rw [ran] at done
    cases done
  | ok result m =>
    rw [ran] at done
    cases result with
    | failed x =>
      dsimp only at done
      cases told : evaluationText x (u.after m).desk with
      | error e d =>
        rw [told] at done
        cases done
      | ok text d =>
        rw [told] at done
        cases done
        exact .inr ⟨Nat.one_ne_zero, .inl ⟨_, _, .evaluation evaluates ran⟩⟩
    | value v =>
      cases v with
      | none =>
        cases done
        exact quiet m ⟨rfl, rfl⟩
      | _ => exact quiet m ((showValue_noReport _).of_ok done)

/-- What a line leaves that no command has. -/
theorem tells_of_unmatched (calm : s.desk.lastException = none)
    (unmatched : s.desk.registry.match? line = none) (goesOn : s.desk.exhausted = false)
    (done : handle Commands.perform line s = .ok signal t) : s.Tells line t := by
  by_cases willing : s.begun.desk.evalUnmatched = true
  · by_cases complete : isComplete ("\n".intercalate
        (s.desk.pending ++ [Text.trimEndOf ['\r', '\n'] line])) = true
    · have evaluates : s.Evaluates line _ _ := ⟨unmatched, willing, goesOn, rfl, complete, rfl⟩
      rw [handle_evaluates evaluates] at done
      cases ran : evaluation _ (evaluating (keptWith s.begun
          (Text.trimEndOf ['\r', '\n'] line))) with
      | error e u =>
        rw [ran] at done
        cases done
      | ok _ u =>
        rw [ran] at done
        cases done
        exact tells_of_evaluates calm evaluates ran
    · have more : ¬ isComplete ("\n".intercalate
          (keptWith s.begun (Text.trimEndOf ['\r', '\n'] line)).desk.pending) = true := complete
      rw [handle_hands_on unmatched goesOn, handleUnmatched_apply _ _ willing, if_neg more]
        at done
      cases done
      exact .inl ⟨rfl, calm⟩
  · have unwilling : s.desk.evalUnmatched = false := Bool.eq_false_iff.mpr willing
    rw [handle_unknown unmatched unwilling goesOn] at done
    cases done
    exact .inr ⟨Nat.one_ne_zero, .inl ⟨_, _, .unknown unmatched unwilling goesOn⟩⟩

/-- What a line leaves that is given to no body. -/
theorem tells_of_refuses {o : Outcome} {text : String} (calm : s.desk.lastException = none)
    (refuses : s.begun.Refuses line o text) (goesOn : s.desk.exhausted = false)
    (done : handle Commands.perform line s = .ok signal t) : s.Tells line t := by
  have unread {reason name : String} (refuses : s.begun.Refuses line (.parseFailure reason name) "")
      (status : t.desk.status = 1) : s.Tells line t :=
    .inr ⟨by rw [status]; decide, .inl ⟨_, _, .unread refuses goesOn⟩⟩
  have handled := done
  rw [handle_refused refuses, goesOn, if_neg Bool.false_ne_true] at handled
  cases refuses with
  | unmatched unmatched => exact tells_of_unmatched calm unmatched goesOn done
  | unsplit found unsplit =>
    refine unread (.unsplit found unsplit) ?_
    cases handled
    rfl
  | unread found splits faulty =>
    refine unread (.unread found splits faulty) ?_
    cases handled
    rfl
  | help =>
    cases handled
    exact .inl ⟨rfl, calm⟩

/-- What a line leaves whose body stops. -/
theorem tells_of_stop {c : Command} {e : Stop} (calm : s.desk.lastException = none)
    (runs : s.begun.RunsTo Commands.perform line c (.error e u))
    (done : handle Commands.perform line s = .ok signal t) :
    s.FailsBy line ∧ t.desk.status = 1 := by
  rcases e.passes_or_fails u.desk.machine with passes | ⟨x, fails⟩
  · obtain ⟨v, same, -⟩ := recover_of_passes (c := c) passes
    rw [handle_runs runs] at done
    unfold concluded at done
    dsimp only at done
    rw [same] at done
    cases done
  · refine ⟨⟨_, _, .body runs fails⟩, ?_⟩
    rw [handle_fails runs fails] at done
    cases told : failureText c e (u.desk.failed x) with
    | error stop d =>
      rw [told] at done
      cases done
    | ok text d =>
      rw [told] at done
      cases done
      have last : d.lastException = some x := ((noReport_failureText c e).of_ok told).2
      have reported : d.lastException ≠ none := by
        rw [last]
        exact nofun
      exact (s.marked_status calm _).1.trans (if_neg reported)

/-- What a line leaves whose body gives a reply. -/
theorem tells_of_reply {c : Command} {reply : Reply} (calm : s.desk.lastException = none)
    (runs : s.begun.RunsTo Commands.perform line c (.ok reply u)) (idle : u.desk.status = 0)
    (done : handle Commands.perform line s = .ok signal t) : s.Tells line t := by
  have marked {v : State} (quiet : NoReport (s.marked (cleared u)).desk v.desk) :
      s.Tells line v := tells_of_marked (u := cleared u) calm idle quiet
  rw [handle_replies runs] at done
  split at done
  · cases done
    exact marked ⟨rfl, rfl⟩
  · next goesOn =>
    cases gives : reply.toSignal c.keepsValue with
    | skip =>
      rw [gives] at done
      cases done
      exact marked ⟨rfl, rfl⟩
    | proceed value =>
      rw [gives] at done
      cases value with
      | none =>
        cases done
        exact marked ⟨rfl, rfl⟩
      | some v =>
        obtain ⟨_, w, shown, done⟩ := bind_ok (p := showValue v) done
        cases done
        exact marked ((showValue_noReport v).of_ok shown)
    | breakout level value =>
      rw [gives] at done
      simp only [Bool.or_eq_true, decide_eq_true_eq, not_or, Nat.not_lt, Bool.not_eq_true] at goesOn
      cases left : (s.marked (cleared u)).stack.breakout level with
      | ok k =>
        rw [obey_signal _ value left] at done
        cases done
        exact marked ⟨rfl, rfl⟩
      | error f =>
        refine .inr ⟨?_, .inl ⟨_, _, .level runs gives goesOn.1 goesOn.2 left⟩⟩
        rw [obey_level left] at done
        cases told : f.report (s.marked (cleared u)).desk with
        | error stop d =>
          rw [told] at done
          cases done
        | ok text d =>
          rw [told] at done
          cases done
          exact Nat.one_ne_zero

end Lines

end NestShell.Shell

import NestShell.Proofs.Shell.Failure
import NestShell.Proofs.Shell.Handling

/-!
# What becomes of failures

A line can fail in five ways: its command cannot read it, there is no command and nothing is
evaluated, the body of its command fails, the body asks for a level that there is not, or the text
that it completes fails when it is evaluated. Each of them is told, and then reading goes on. What
stops the handling of a line is a stop that no handler takes, a text with a NUL character, or code
of a program that stops while it makes the text to be told or the value to be shown.
-/

namespace NestShell.Shell

open NestShell.Code NestShell.Text

/-! ## Stages of a line -/

/-- The body that the line runs in the state comes to `r`. -/
def State.RunsTo (s : State) (perform : Context → ShellM Reply) (line : String) (c : Command)
    (r : EStateM.Result Stop State Reply) : Prop :=
  ∃ m tokens options, s.Admits line m tokens options ∧ m.command = c ∧
    let ctx : Context := ⟨m.command, line, options, s.stack.top.scope, s.stack⟩
    perform ctx (entered s ctx m.remainder) = r

/-- A line that no command has completes a text, which is evaluated in the state `u`. -/
structure State.Evaluates (s : State) (line source : String) (u : State) : Prop where
  unmatched : s.desk.registry.match? line = none
  evaluates : s.desk.evalUnmatched = true
  goesOn : s.desk.exhausted = false
  whole : source = "\n".intercalate (s.desk.pending ++ [trimEndOf ['\r', '\n'] line])
  complete : isComplete source = true
  start : u = evaluating (keptWith s.begun (trimEndOf ['\r', '\n'] line))

section Outcomes

variable (perform : Context → ShellM Reply) (s : State) (line : String)

/-- The line fails in the state `t`, where this is told in the text that `p` makes. -/
inductive Fails : State → DeskM String → Prop where
  | unread {reason name : String} : s.begun.Refuses line (.parseFailure reason name) "" →
      s.desk.exhausted = false → Fails s.begun (pure ("error: " ++ reason))
  | unknown : s.desk.registry.match? line = none → s.desk.evalUnmatched = false →
      s.desk.exhausted = false →
      Fails s.begun (pure ("No such command: " ++ (splitFirst (trimEndOf ['\r', '\n'] line)).1))
  | body {c : Command} {e : Stop} {x : Nat} {t : State} :
      s.begun.RunsTo perform line c (.error e t) → e.Fails t.desk.machine x →
      Fails { t with desk := t.desk.failed x } (failureText c e)
  | level {c : Command} {reply : Reply} {t : State} {level value : Value} {f : InvalidLevel} :
      s.begun.RunsTo perform line c (.ok reply t) →
      reply.toSignal c.keepsValue = .breakout level value →
      s.stack.depth ≤ t.stack.depth → t.desk.exhausted = false →
      t.stack.breakout level = .error f →
      Fails (s.marked (cleared t)) f.report
  | evaluation {source : String} {u : State} {x : Nat} {m : Machine} :
      s.Evaluates line source u →
      u.stack.top.scope.evaluate source u.desk.lent = .ok (.failed x) m →
      Fails (u.after m) (evaluationText x)

/-- The line gives a value, which is shown in the state. -/
inductive Shows : State → Value → Prop where
  | body {c : Command} {reply : Reply} {t : State} {v : Value} :
      s.begun.RunsTo perform line c (.ok reply t) →
      reply.toSignal c.keepsValue = .proceed (some v) →
      s.stack.depth ≤ t.stack.depth → t.desk.exhausted = false → Shows (s.marked (cleared t)) v
  | evaluation {source : String} {u : State} {v : Value} {m : Machine} :
      s.Evaluates line source u → u.stack.top.scope.evaluate source u.desk.lent = .ok (.value v) m →
      Shows (u.after m) v

/-- How a line stops the shell. -/
inductive Escapes : Stop → Prop where
  /-- No handler takes what stopped the body. -/
  | body {c : Command} {e : Stop} {t : State} :
      s.begun.RunsTo perform line c (.error e t) → e.Passes t.desk.machine → Escapes e
  /-- No handler takes what stopped the evaluation. -/
  | evaluation {source : String} {u : State} {f : Code.Fault} {m : Machine} :
      s.Evaluates line source u → u.stack.top.scope.evaluate source u.desk.lent = .error f m →
      f.stop.Passes m → Escapes f.stop
  /-- Nor that there is a NUL character in the text. -/
  | nul {source : String} {u : State} {x : Nat} {m : Machine} :
      s.Evaluates line source u →
      u.stack.top.scope.evaluate source u.desk.lent = .error (.raised x) m →
      containsChar '\x00' (trimOf ['\n'] source) = true → m.isOf x "ValueError" = true →
      Escapes (.raised x)
  /-- The text in which a failure would be told could not be made. -/
  | untold {t : State} {p : DeskM String} {e : Stop} {d : Desk} :
      Fails perform s line t p → p t.desk = .error e d → Escapes e
  /-- A value could not be shown. -/
  | unshown {u t : State} {v : Value} {e : Stop} :
      Shows perform s line u v → showValue v u = .error e t → Escapes e

/-- A failure in the state `t` is told in the text that `p` makes, in the sessions as they are there,
and reading goes on; where making the text stops, so does the shell. -/
def Told (t : State) (p : DeskM String) : Prop :=
  match p t.desk with
  | .ok text d => ∃ u, handle perform line s = .ok none u ∧ u.stack = t.stack ∧
      u.desk.machine.output = d.machine.output ++ wholeLines text
  | .error e _ => ∃ u, handle perform line s = .error e u ∧ u.stack = t.stack

end Outcomes

/-! ## Equations -/

section Equations

variable {perform : Context → ShellM Reply} {s t : State} {line : String}

theorem State.marked_machine (s t : State) : (s.marked t).desk.machine = t.desk.machine := by
  obtain ⟨n, marked⟩ := s.marked_eq t
  rw [marked]

theorem State.marked_exhausted (s t : State) :
    (s.marked t).desk.exhausted = t.desk.exhausted := by
  obtain ⟨n, marked⟩ := s.marked_eq t
  rw [marked]

theorem State.marked_trailing (s t : State) : (s.marked t).desk.trailing = t.desk.trailing := by
  obtain ⟨n, marked⟩ := s.marked_eq t
  rw [marked]

/-- Whether what a body led to is obeyed depends on the state in which the body ended. -/
theorem obeyAt_marked (o : Outcome) (t : State) :
    obeyAt s.stack.depth o (s.marked (cleared t)) =
      if t.stack.depth < s.stack.depth || t.desk.exhausted then .ok none (s.marked (cleared t))
      else obey o (s.marked (cleared t)) := by
  rw [obeyAt_apply, s.marked_exhausted]
  rfl

/-- A line that is refused is obeyed at once. -/
theorem handle_refused {o : Outcome} {text : String} (refuses : s.begun.Refuses line o text) :
    handle perform line s =
      if s.desk.exhausted then .ok none (s.begun.printed text)
      else obey o (s.begun.printed text) := by
  have same : s.marked (s.begun.printed text) = s.begun.printed text := State.marked_same rfl
  have level : decide ((s.begun.printed text).stack.depth < s.stack.depth) = false :=
    decide_eq_false (Nat.lt_irrefl _)
  rw [handle_apply, dispatchWith_refused refuses]
  dsimp only
  rw [same, obeyAt_apply, level, Bool.false_or]
  rfl

theorem handle_runs {c : Command} {r : EStateM.Result Stop State Reply}
    (runs : s.begun.RunsTo perform line c r) :
    handle perform line s = match concluded c r with
      | .ok o t => obeyAt s.stack.depth o (s.marked t)
      | .error e t => .error e t := by
  obtain ⟨m, tokens, options, admits, rfl, rfl⟩ := runs
  have handled := handle_apply perform s line
  rw [dispatchWith_admitted admits] at handled
  exact handled

/-- What a body replies is obeyed while its session is open and the input goes on. -/
theorem handle_replies {c : Command} {reply : Reply}
    (runs : s.begun.RunsTo perform line c (.ok reply t)) :
    handle perform line s =
      if t.stack.depth < s.stack.depth || t.desk.exhausted then .ok none (s.marked (cleared t))
      else obey (.handled (reply.toSignal c.keepsValue)) (s.marked (cleared t)) := by
  rw [handle_runs runs]
  exact obeyAt_marked _ t

/-- The failure of a body is told by its command, and nothing is left to be obeyed. -/
theorem handle_fails {c : Command} {e : Stop} {x : Nat}
    (runs : s.begun.RunsTo perform line c (.error e t)) (fails : e.Fails t.desk.machine x) :
    handle perform line s = match failureText c e (t.desk.failed x) with
      | .ok text d =>
        .ok none (s.marked (cleared { t with desk := d.printed (wholeLines text) }))
      | .error stop d => .error stop (cleared { t with desk := d }) := by
  rw [handle_runs runs]
  unfold concluded
  dsimp only
  rw [recover_of_fails fails]
  cases failureText c e (t.desk.failed x) with
  | error stop d => rfl
  | ok text d =>
    dsimp only
    rw [obeyAt_marked]
    split <;> rfl

/-- A line that no command has is handed on. -/
theorem handle_hands_on (unmatched : s.desk.registry.match? line = none)
    (goesOn : s.desk.exhausted = false) :
    handle perform line s = match handleUnmatched (trimEndOf ['\r', '\n'] line) s.begun with
      | .ok _ t => .ok none t
      | .error e t => .error e t := by
  rw [handle_unmatched perform unmatched, goesOn, if_neg Bool.false_ne_true, bind_apply]
  cases handleUnmatched (trimEndOf ['\r', '\n'] line) s.begun <;> rfl

/-- Where nothing is evaluated, such a line is told to be unknown. -/
theorem handle_unknown (unmatched : s.desk.registry.match? line = none)
    (unwilling : s.desk.evalUnmatched = false) (goesOn : s.desk.exhausted = false) :
    let text := "No such command: " ++ (splitFirst (trimEndOf ['\r', '\n'] line)).1
    handle perform line s =
      .ok none { s with desk := { s.desk.printed (wholeLines text) with status := 1 } } := by
  rw [handle_hands_on unmatched goesOn, handleUnmatched_unwilling s.begun _ unwilling]
  rfl

/-- A text that is complete is evaluated. -/
theorem handle_evaluates {source : String} {u : State} (evaluates : s.Evaluates line source u) :
    handle perform line s = match evaluation source u with
      | .ok _ t => .ok none t
      | .error e t => .error e t := by
  have whole : "\n".intercalate
      (keptWith s.begun (trimEndOf ['\r', '\n'] line)).desk.pending = source :=
    evaluates.whole.symm
  have willing : s.begun.desk.evalUnmatched = true := evaluates.evaluates
  rw [handle_hands_on evaluates.unmatched evaluates.goesOn, handleUnmatched_apply _ _ willing,
    whole, if_pos evaluates.complete, evaluates.start]

/-- A level that there is not is told. -/
theorem obey_level {level value : Value} {f : InvalidLevel}
    (refused : t.stack.breakout level = .error f) :
    obey (.handled (.breakout level value)) t =
      match f.report t.desk with
      | .ok text d =>
        .ok none { t with desk := { d.printed (wholeLines text) with status := 1 } }
      | .error e d => .error e { t with desk := d } := by
  change (do return if ← leaveTo level value then some (.breakout level value) else none :
    ShellM (Option Signal)) t = _
  rw [bind_apply, leaveTo_error t value refused, bind_apply, ofDesk_apply, bind_apply]
  cases f.report t.desk <;> rfl

end Equations

/-! ## Failures are told -/

section Telling

variable {perform : Context → ShellM Reply} {s : State} {line : String}

theorem told_of_fails {t : State} {p : DeskM String} (fails : Fails perform s line t p) :
    Told perform s line t p := by
  unfold Told
  cases fails with
  | unread refuses goesOn =>
    change ∃ u, _
    rw [handle_refused refuses, State.printed_nothing, goesOn, if_neg Bool.false_ne_true]
    exact ⟨_, rfl, rfl, rfl⟩
  | unknown unmatched unwilling goesOn =>
    exact ⟨_, handle_unknown unmatched unwilling goesOn, rfl, rfl⟩
  | @body c e x t runs failed =>
    rw [handle_fails runs failed]
    cases failureText c e (t.desk.failed x) with
    | error stop d => exact ⟨_, rfl, rfl⟩
    | ok text d =>
      refine ⟨_, rfl, rfl, ?_⟩
      rw [State.marked_machine]
      rfl
  | @level c reply t level value f runs signal deep goesOn refused =>
    have here : (s.marked (cleared t)).stack.breakout level = .error f := refused
    rw [handle_replies runs, signal, goesOn, Bool.or_false, if_neg (by simpa using deep),
      obey_level here]
    cases f.report (s.marked (cleared t)).desk with
    | error stop d => exact ⟨_, rfl, rfl⟩
    | ok text d => exact ⟨_, rfl, rfl, rfl⟩
  | @evaluation source u x m evaluates failed =>
    rw [handle_evaluates evaluates, evaluation_apply, failed]
    dsimp only
    cases evaluationText x (u.after m).desk with
    | error stop d => exact ⟨_, rfl, rfl⟩
    | ok text d => exact ⟨_, rfl, rfl, rfl⟩

end Telling

/-! ## What escapes -/

section Escaping

variable {perform : Context → ShellM Reply} {s t : State} {line : String} {e : Stop}

/-- Evaluating stops at what no handler takes, or where nothing is told or shown. -/
theorem escapes_evaluation {source : String} {u : State} (evaluates : s.Evaluates line source u)
    (stopped : evaluation source u = .error e t) : Escapes perform s line e := by
  rw [evaluation_apply] at stopped
  cases ran : u.stack.top.scope.evaluate source u.desk.lent with
  | error f m =>
    rw [ran] at stopped
    cases stopped
    rcases Scope.evaluate_error ran with rfl | ⟨x, rfl, ⟨nul, is⟩ | other⟩
    · exact .evaluation evaluates ran .outOfFuel
    · exact .nul evaluates ran nul is
    · exact .evaluation evaluates ran (.raised other)
  | ok result m =>
    rw [ran] at stopped
    cases result with
    | failed x =>
      dsimp only at stopped
      cases told : evaluationText x (u.after m).desk with
      | ok text d =>
        rw [told] at stopped
        cases stopped
      | error stop d =>
        rw [told] at stopped
        cases stopped
        exact .untold (.evaluation evaluates ran) told
    | value v =>
      cases v with
      | none => cases stopped
      | _ => exact .unshown (.evaluation evaluates ran) stopped

/-- Of the lines that no command has, those stop the shell whose evaluation does. -/
theorem escapes_of_unmatched (unmatched : s.desk.registry.match? line = none)
    (goesOn : s.desk.exhausted = false) (stopped : handle perform line s = .error e t) :
    Escapes perform s line e := by
  by_cases willing : s.begun.desk.evalUnmatched = true
  · by_cases complete : isComplete ("\n".intercalate
        (s.desk.pending ++ [trimEndOf ['\r', '\n'] line])) = true
    · have evaluates : s.Evaluates line _ _ := ⟨unmatched, willing, goesOn, rfl, complete, rfl⟩
      rw [handle_evaluates evaluates] at stopped
      cases ran : evaluation _ (evaluating (keptWith s.begun
          (trimEndOf ['\r', '\n'] line))) with
      | ok _ u =>
        rw [ran] at stopped
        cases stopped
      | error stop u =>
        rw [ran] at stopped
        cases stopped
        exact escapes_evaluation evaluates ran
    · have more : ¬ isComplete ("\n".intercalate
          (keptWith s.begun (trimEndOf ['\r', '\n'] line)).desk.pending) = true := complete
      rw [handle_hands_on unmatched goesOn, handleUnmatched_apply _ _ willing, if_neg more]
        at stopped
      cases stopped
  · have unwilling : s.desk.evalUnmatched = false := Bool.eq_false_iff.mpr willing
    rw [handle_unknown unmatched unwilling goesOn] at stopped
    cases stopped

/-- Of the lines that run no body, only those stop the shell that no command has. -/
theorem escapes_of_refuses {o : Outcome} {text : String} (refuses : s.begun.Refuses line o text)
    (stopped : handle perform line s = .error e t) : Escapes perform s line e := by
  have obeyed := stopped
  rw [handle_refused refuses] at obeyed
  split at obeyed
  · cases obeyed
  · next goesOn =>
    cases refuses with
    | unsplit | unread | help => cases obeyed
    | unmatched unmatched =>
      exact escapes_of_unmatched unmatched (Bool.eq_false_iff.mpr goesOn) stopped

/-- Of the signals of bodies, those stop the shell whose value or level cannot be shown. -/
theorem escapes_of_reply {c : Command} {reply : Reply} {u : State}
    (runs : s.begun.RunsTo perform line c (.ok reply u))
    (stopped : handle perform line s = .error e t) : Escapes perform s line e := by
  rw [handle_replies runs] at stopped
  split at stopped
  · cases stopped
  · next goesOn =>
    obtain ⟨deep, open_⟩ : s.stack.depth ≤ u.stack.depth ∧ u.desk.exhausted = false := by
      simpa using goesOn
    cases signal : reply.toSignal c.keepsValue with
    | skip =>
      rw [signal] at stopped
      cases stopped
    | proceed value =>
      rw [signal] at stopped
      cases value with
      | none => cases stopped
      | some v =>
        change (do showValue v; return none : ShellM (Option Signal)) _ = _ at stopped
        rcases bind_error stopped with unshown | ⟨_, _, _, ended⟩
        · exact .unshown (.body runs signal deep open_) unshown
        · cases ended
    | breakout level value =>
      rw [signal] at stopped
      cases left : (s.marked (cleared u)).stack.breakout level with
      | ok k =>
        change (do return if ← leaveTo level value then some (.breakout level value) else none :
          ShellM (Option Signal)) _ = _ at stopped
        rw [bind_apply, leaveTo_apply _ left] at stopped
        cases stopped
      | error f =>
        rw [obey_level left] at stopped
        cases told : f.report (s.marked (cleared u)).desk with
        | ok text d =>
          rw [told] at stopped
          cases stopped
        | error stop d =>
          rw [told] at stopped
          cases stopped
          exact .untold (.level runs signal deep open_ left) told

/-- Of the stops of bodies, those stop the shell that no handler takes or that cannot be told. -/
theorem escapes_of_stop {c : Command} {first : Stop} {u : State}
    (runs : s.begun.RunsTo perform line c (.error first u))
    (stopped : handle perform line s = .error e t) : Escapes perform s line e := by
  rcases first.passes_or_fails u.desk.machine with passes | ⟨x, fails⟩
  · obtain ⟨v, same, -⟩ := recover_of_passes (c := c) passes
    rw [handle_runs runs] at stopped
    unfold concluded at stopped
    dsimp only at stopped
    rw [same] at stopped
    cases stopped
    exact .body runs passes
  · rw [handle_fails runs fails] at stopped
    cases told : failureText c first (u.desk.failed x) with
    | ok text d =>
      rw [told] at stopped
      cases stopped
    | error stop d =>
      rw [told] at stopped
      cases stopped
      exact .untold (.body runs fails) told

theorem escapes_of_handle (stopped : handle perform line s = .error e t) :
    Escapes perform s line e := by
  rcases s.begun.admits_or_refuses line with ⟨m, tokens, options, admits⟩ | ⟨o, text, refuses⟩
  · let ctx : Context := ⟨m.command, line, options, s.begun.stack.top.scope, s.begun.stack⟩
    cases came : perform ctx (entered s.begun ctx m.remainder) with
    | ok reply u => exact escapes_of_reply ⟨m, tokens, options, admits, rfl, came⟩ stopped
    | error first u => exact escapes_of_stop ⟨m, tokens, options, admits, rfl, came⟩ stopped
  · exact escapes_of_refuses refuses stopped

end Escaping

/-! ## The text after a command's word -/

/-- The text at the desk is the same. -/
def TextStays (s t : State) : Prop := t.desk.trailing = s.desk.trailing

instance : Permissive TextStays where
  refl _ := rfl
  trans _ _ _ first second := Eq.trans second first
  kept same := same.trailing
  note _ _ _ _ _ := rfl
  register same := same.trailing
  leaves _ _ _ _ _ _ := rfl
  carry _ _ := rfl
  cut _ _ := rfl

section Texts

variable {perform : Context → ShellM Reply} {s : State} {line : String}

theorem concluded_cleared (c : Command) (r : EStateM.Result Stop State Reply) :
    (endState (concluded c r)).desk.trailing = "" := by
  unfold concluded
  cases r with
  | ok reply t => rfl
  | error e t =>
    dsimp only
    cases recover c e t <;> rfl

theorem trailing_of_runs {c : Command} {r : EStateM.Result Stop State Reply}
    (runs : s.begun.RunsTo perform line c r) :
    (endState (handle perform line s)).desk.trailing = "" := by
  have gone := concluded_cleared c r
  rw [handle_runs runs]
  cases came : concluded c r with
  | error e t =>
    rw [came] at gone
    exact gone
  | ok o t =>
    rw [came] at gone
    have obeyed : Stays TextStays (obeyAt s.stack.depth o) := inferInstance
    exact (obeyed.within (s.marked t)).trans ((s.marked_trailing t).trans gone)

theorem trailing_of_refuses {o : Outcome} {text : String} (refuses : s.begun.Refuses line o text) :
    (endState (handle perform line s)).desk.trailing = s.desk.trailing := by
  have obeyed : Stays TextStays (obey o) := inferInstance
  rw [handle_refused refuses]
  split
  · rfl
  · exact obeyed.within (s.begun.printed text)

end Texts

/-! ## All of a line -/

/-- Whether handling stopped at an exception that neither ends the program nor interrupts a line. -/
def strays : EStateM.Result Stop State (Option Signal) → Bool
  | .error (.raised x) t =>
    !t.desk.machine.isOf x "SystemExit" && !t.desk.machine.isOf x "KeyboardInterrupt"
  | _ => false

theorem nul_strays : strays (handle Commands.perform "\x00" (fresh [])) = true := by decide +kernel

/-- Only exceptions that end the program or interrupt a line stop the handling of one. -/
def Contained : Prop :=
  ∀ (s : State) (line : String), strays (handle Commands.perform line s) = false

end NestShell.Shell

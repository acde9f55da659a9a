import NestShell.Proofs.Commands.Bodies
import NestShell.Proofs.Shell.Fresh
import NestShell.Proofs.Shell.Handling

/-!
# The text after a command's word

While a body runs, the text after the word of its line is at the desk. The desk has one place for
it, which is emptied after each body: a line that runs no body leaves the text as it was, and a line
that runs one leaves no text. So a body finds its own text there until it hands the shell a line
that runs a body, or starts a session in which one runs, and from then on it finds none.
-/

namespace NestShell.Shell

/-- Whether a body begins. -/
def Event.isRun : Event → Bool
  | .runs .. => true
  | _ => false

/-- The journal goes on. The text at the desk is the same where no body ran meanwhile, and there is
none where one did. -/
def Clears (s t : State) : Prop :=
  ∃ new, t.stack.journal = s.stack.journal ++ new ∧
    t.desk.trailing = if new.any (·.event.isRun) then "" else s.desk.trailing

namespace Clears

variable {s t u : State}

theorem of_same (journal : t.stack.journal = s.stack.journal)
    (text : t.desk.trailing = s.desk.trailing) : Clears s t :=
  ⟨[], by rw [journal, List.append_nil], text⟩

theorem trans (first : Clears s t) (second : Clears t u) : Clears s u := by
  obtain ⟨new, journal, text⟩ := first
  obtain ⟨newer, journal', text'⟩ := second
  refine ⟨new ++ newer, by rw [journal', journal, List.append_assoc], ?_⟩
  rw [text', text, List.any_append]
  cases newer.any (·.event.isRun) <;> simp

theorem note (s : State) (f : Session) {e : Event} (n : Nat) (other : e.isRun = false) :
    Clears s { s with stack := s.stack.note f e n } :=
  ⟨[⟨f, e, s.stack.sessions, n⟩], rfl, by simp [other]⟩

end Clears

instance : DeskClosed Clears where
  refl _ := .of_same rfl rfl
  trans _ _ _ := Clears.trans
  desk same := .of_same rfl same.trailing

instance : Lenient Clears where
  note s f e n handling := .note s f n (by cases e <;> first | rfl | cases handling)
  register same := .of_same rfl same.trailing

theorem clears_note (f : Session) {e : Event} (other : e.isRun = false) :
    Stays Clears (ShellM.note f e) := .modify fun s => .note s f _ other

instance (level value : Code.Value) : Stays Clears (leaveTo level value) :=
  stays_leaveTo_of fun s _ left =>
    ⟨[_], by rw [leftTo, Stack.note_journal, s.stack.breakout_journal left], rfl⟩

/-! ## Lines and sessions -/

section Lines

variable {perform : Context → ShellM Reply}

/-- The text of a body is gone once the body is over. -/
theorem clears_runBody {ctx : Context} (body : Stays Clears (perform ctx)) (remainder : String) :
    Stays Clears (runBody perform ctx remainder) := by
  refine ⟨fun s => ?_⟩
  have performed : Stays Clears (performIn perform ctx) := by
    unfold performIn
    infer_instance
  have emptied {t : State} (ran : Clears (entered s ctx remainder) t) : Clears s (cleared t) := by
    obtain ⟨new, journal, -⟩ := ran
    let began : Entry :=
      ⟨ctx.stack.top, .runs ctx.command remainder, s.stack.sessions, s.desk.waiting⟩
    have whole : (cleared t).stack.journal = s.stack.journal ++ began :: new := by
      rw [cleared, journal, entered, Stack.note_journal, List.append_assoc]
      rfl
    exact ⟨began :: new, whole, rfl⟩
  rw [endState_runBody]
  exact emptied (performed.within _)

section Turns

variable [∀ ctx remainder, Stays Clears (runBody perform ctx remainder)]

instance clears_stepLoop (f : Session) (r : Reading) : Stays Clears (stepLoop perform f r) := by
  by_cases atEnd : r = .ended
  · subst atEnd
    exact stays_ended f (fun _ => .of_same rfl rfl) (clears_note f rfl)
  · have taken (g : Session) (line : String) : Stays Clears (ShellM.note g (.takes line)) :=
      clears_note g rfl
    have recorded (text : String) : Stays Clears (ShellM.modifyDesk (recordLine text)) := by
      refine .modify fun s => .of_same rfl ?_
      obtain ⟨history, files, same⟩ := recordLine_eq s.desk text
      rw [same]
    exact stays_stepLoop f atEnd

instance clears_asks (f : Session) : Stays Clears (ShellM.note f .asks) := clears_note f rfl

instance clears_startSession (receiver : Code.Value) :
    Stays Clears (startSession perform receiver) := by
  refine stays_startSession (fun same => .of_same same rfl) (fun f => clears_note f rfl)
    (fun f result => clears_note f rfl) (fun f => ?_) receiver
  have prompted (g : Session) (text : String) : Stays Clears (ShellM.note g (.prompts text)) :=
    clears_note g rfl
  unfold turn
  infer_instance

end Turns

/-- In the state the line runs the body of the command that matches it: the command can read the
rest of the line and is not asked for help. -/
def State.RunsBody (s : State) (line : String) (m : Registry.Match) : Prop :=
  s.desk.registry.match? line = some m ∧
    ∃ options, readOptions m.command m.remainder = .ok options ∧ options.helpRequested = false

variable (perform) {s : State} {line : String}

/-- The body begins with the rest of its line as the text. -/
theorem dispatchWith_runs {m : Registry.Match} (runs : s.RunsBody line m) :
    ∃ ctx : Context, ctx.command = m.command ∧ ctx.line = line ∧
      endState (dispatchWith perform line s) =
        cleared (endState (performIn perform ctx (entered s ctx m.remainder))) := by
  obtain ⟨found, options, read, help⟩ := runs
  refine ⟨⟨m.command, line, options, s.stack.top.scope, s.stack⟩, rfl, rfl, ?_⟩
  rw [dispatchWith_body perform found read help]
  cases performIn perform _ (entered s _ _) <;> rfl

theorem dispatchWith_idle (idle : ∀ m, ¬ s.RunsBody line m) :
    (endState (dispatchWith perform line s)).desk.trailing = s.desk.trailing ∧
      (endState (dispatchWith perform line s)).stack = s.stack := by
  rw [dispatchWith_apply]
  cases found : s.desk.registry.match? line with
  | none => exact ⟨rfl, rfl⟩
  | some m =>
    dsimp only
    cases read : readOptions m.command m.remainder with
    | error reason => exact ⟨rfl, rfl⟩
    | ok options =>
      dsimp only
      by_cases help : options.helpRequested = true
      · rw [if_pos help]
        have shown : Stays Kept (DeskM.puts m.command.usageText) := inferInstance
        rw [bind_apply, ofDesk_apply]
        cases done : DeskM.puts m.command.usageText s.desk with
        | ok _ d => exact ⟨(shown.of_ok done).trailing, rfl⟩
        | error e d => exact ⟨(shown.of_error done).trailing, rfl⟩
      · exact absurd ⟨found, options, read, Bool.eq_false_iff.mpr help⟩ (idle m)

end Lines

/-! ## Every nesting -/

/-- The text at the desk is the same; nothing is said of what else is there. -/
def SameText (d e : Desk) : Prop := e.trailing = d.trailing

theorem clears_of_built {back : Reentry} {α : Type} {p : ShellM α} (h : Built SameText back p)
    (run : ∀ line, Stays Clears (back.run line))
    (start : ∀ receiver, Stays Clears (back.start receiver)) : Stays Clears p :=
  h.stays (fun same => .of_same rfl same) (fun s f => .of_same (s.stack.release_journal f) rfl)
    run start

section Nesting

variable {bodies : Bodies} (built : ∀ back ctx, Built SameText back (bodies back ctx)) (fuel : Nat)

include built

theorem clears_runBody_reentry (ctx : Context) (remainder : String) :
    Stays Clears (runBody (bodies (reentry bodies fuel)) ctx remainder) :=
  stays_runBody_reentry
    (fun back run start ctx remainder =>
      clears_runBody (clears_of_built (built back ctx) run start) remainder)
    (fun _ _ => clears_startSession) fuel ctx remainder

/-- The text across what a body does, from any point of it to any later one. -/
theorem clears_built {α : Type} {p : ShellM α} (h : Built SameText (reentry bodies fuel) p) :
    Stays Clears p := by
  have runs (fuel : Nat) := clears_runBody_reentry built fuel
  refine clears_of_built h ?_ ?_
  · intro line
    cases fuel with
    | zero => exact stays_throw _
    | succ fuel =>
      have inside := runs fuel
      exact stays_dispatchWith line
  · intro receiver
    cases fuel with
    | zero => exact stays_throw _
    | succ fuel =>
      have inside := runs fuel
      exact clears_startSession receiver

/-- A line that runs a body runs it with the rest of the line as the text, and leaves no text,
however the body ends. A line that runs none leaves the text and the sessions as they were. What a
body does from its beginning up to any point leaves the text after its own command's word, as long
as no other body has begun, and none from then on. -/
theorem text_stays_until_inner_body (s : State) :
    (∀ perform line,
      let t := endState (dispatchWith perform line s)
      (∀ m, s.RunsBody line m → t.desk.trailing = "" ∧
        ∃ ctx : Context, ctx.command = m.command ∧ ctx.line = line ∧
          t = cleared (endState (performIn perform ctx (entered s ctx m.remainder)))) ∧
      ((∀ m, ¬ s.RunsBody line m) → t.desk.trailing = s.desk.trailing ∧ t.stack = s.stack)) ∧
    ∀ (ctx : Context) (remainder : String) {α : Type} (p : ShellM α),
      Built SameText (reentry bodies fuel) p →
        let begun := entered s ctx remainder
        let t := endState (p begun)
        ∃ new, t.stack.journal = begun.stack.journal ++ new ∧
          t.desk.trailing = if new.any (·.event.isRun) then "" else remainder := by
  constructor
  · intro perform line
    refine ⟨fun m runs => ?_, dispatchWith_idle perform⟩
    obtain ⟨ctx, command, same, ran⟩ := dispatchWith_runs perform runs
    exact ⟨by rw [ran]; rfl, ctx, command, same, ran⟩
  · exact fun ctx remainder _ _ h => (clears_built built fuel h).within (entered s ctx remainder)

end Nesting

/-! ## A line inside a body -/

/-- The text at the desk after each line is what it was before the line. -/
def RestoresText : Prop :=
  ∀ (s : State) (line : String), (endState (dispatch line s)).desk.trailing = s.desk.trailing

/-- It evaluates what stands after its word. -/
def innerCommand : Command := { name := "inner", body := .steps [.evaluate], keepsValue := true }

/-- It hands a line to the shell and then evaluates what stands after its own word. -/
def outerCommand : Command :=
  { name := "outer", body := .steps [.run ["inner 5"], .evaluate], keepsValue := true }

/-- A shell with the two commands. -/
def nesting : State :=
  let s := fresh []
  { s with desk := { s.desk with
      registry := (s.desk.registry.register innerCommand).register outerCommand } }

/-- What the body of the line knows. -/
def outerContext : Context where
  command := outerCommand
  line := "outer 7"
  options := { args := ["7"] }
  target := nesting.stack.top.scope
  stack := nesting.stack

theorem nesting_runs_inner : ∃ m, nesting.RunsBody "inner 5" m := by
  have runs : ((nesting.desk.registry.match? "inner 5").any fun m =>
      (readOptions m.command m.remainder).toOption.any fun o => !o.helpRequested) = true := by
    decide +kernel
  obtain ⟨m, found, reads⟩ := (Option.any_eq_true _ _).mp runs
  obtain ⟨options, read, help⟩ := (Option.any_eq_true _ _).mp reads
  refine ⟨m, found, options, ?_, by simpa using help⟩
  cases parsed : readOptions m.command m.remainder with
  | error reason =>
    rw [parsed] at read
    cases read
  | ok o =>
    rw [parsed] at read
    cases read
    rfl

/-- The built-in bodies, and the first step of the body. -/
theorem outer_step_follows_text :
    (endState (dispatchWith Commands.perform "inner 5" nesting)).desk.trailing = "" ∧
      ∃ new, (endState (Commands.runLines (reentry Commands.bodies 2) ["inner 5"]
          (entered nesting outerContext "7"))).stack.journal =
            (entered nesting outerContext "7").stack.journal ++ new ∧
        (endState (Commands.runLines (reentry Commands.bodies 2) ["inner 5"]
          (entered nesting outerContext "7"))).desk.trailing =
            if new.any (·.event.isRun) then "" else "7" := by
  have bodies (back : Reentry) (ctx : Context) : Built SameText back (Commands.bodies back ctx) :=
    (Commands.built_bodies back ctx).mono fun _ _ => Undisturbed.trailing
  obtain ⟨lines, steps⟩ := text_stays_until_inner_body bodies 2 nesting
  obtain ⟨m, runs⟩ := nesting_runs_inner
  obtain ⟨gone, -⟩ := lines Commands.perform "inner 5"
  have built : Built SameText (reentry Commands.bodies 2)
      (Commands.runLines (reentry Commands.bodies 2) ["inner 5"]) :=
    (Commands.built_runLines _ _).mono fun _ _ kept => kept.trailing
  exact ⟨(gone m runs).1, steps outerContext "7" _ built⟩

/-- The text of a body is gone once a line of its own has run a body. -/
theorem inner_line_takes_text : ¬ RestoresText := by
  intro restores
  let begun := entered nesting outerContext "7"
  have kept : (endState (dispatch "inner 5" begun)).desk.trailing = "7" := restores begun "inner 5"
  have gone : (endState (dispatch "inner 5" begun)).desk.trailing = "" := by decide +kernel
  rw [gone] at kept
  exact absurd kept (by decide)

end NestShell.Shell

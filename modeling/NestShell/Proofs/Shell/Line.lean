import NestShell.Proofs.Shell.Desk
import NestShell.Shell.Loop

/-!
# Relations that a line keeps by itself

Reading a line, finding its command, reporting what went wrong and showing a value are work at the
desk, with asides in the journal. A relation that does not mind such work holds across them, and
across a line's command as far as it holds across the body.
-/

namespace NestShell.Shell

variable {α : Type}

/-- Entries that tell of a line and not of the sessions or of what waits. -/
def Event.IsAside : Event → Prop
  | .prompts _ | .runs .. | .shows _ => True
  | _ => False

/-- A relation that holds across work at the desk that leaves alone what the loops keep. -/
class KeptClosed (R : State → State → Prop) : Prop extends IsPreorder State R where
  kept {s : State} {d : Desk} : Kept s.desk d → R s { s with desk := d }

/-- A relation that also does not mind the status that a line leaves. -/
class Marking (R : State → State → Prop) : Prop extends KeptClosed R where
  mark (s : State) (n : Nat) : R s { s with desk := { s.desk with status := n } }

/-- A relation that also holds across reading. -/
class ReadClosed (R : State → State → Prop) : Prop extends IsPreorder State R where
  reads {s : State} {d : Desk} : Reads s.desk d → R s { s with desk := d }

/-- A relation that holds across undisturbing work at the desk. -/
class DeskClosed (R : State → State → Prop) : Prop extends IsPreorder State R where
  desk {s : State} {d : Desk} : Undisturbed s.desk d → R s { s with desk := d }

/-- A relation that also holds across asides, and does not mind which text a body has. -/
class Indifferent (R : State → State → Prop) : Prop extends DeskClosed R where
  text (s : State) (text : String) : R s { s with desk := { s.desk with trailing := text } }
  aside (s : State) (f : Session) {e : Event} (n : Nat) :
    e.IsAside → R s { s with stack := s.stack.note f e n }

variable {R : State → State → Prop}

instance [DeskClosed R] : ReadClosed R where
  reads same := DeskClosed.desk same.toUndisturbed

instance [ReadClosed R] : Marking R where
  kept same := ReadClosed.reads same.toReads
  mark _ _ := ReadClosed.reads {}

/-- Work at the desk under a relation that holds across all that the work may do. -/
theorem stays_ofDesk_of {K : Desk → Desk → Prop} [IsPreorder State R] (p : DeskM α) (hp : Stays K p)
    (closed : ∀ {s : State} {d : Desk}, K s.desk d → R s { s with desk := d }) :
    Stays R (ShellM.ofDesk p) := by
  refine ⟨fun s => ?_⟩
  rw [ofDesk_apply]
  cases h : p s.desk with
  | ok a d => exact closed (hp.of_ok h)
  | error e d => exact closed (hp.of_error h)

section Desk

variable [KeptClosed R]

instance stays_ofDesk (p : DeskM α) [hp : Stays Kept p] : Stays R (ShellM.ofDesk p) :=
  stays_ofDesk_of p hp KeptClosed.kept

instance stays_catching (name : String) {p : ShellM α} {h : Nat → ShellM α} [Stays R p]
    [∀ e, Stays R (h e)] : Stays R (ShellM.catching name p h) := by
  unfold ShellM.catching
  refine .tryCatch inferInstance fun e => ?_
  cases e <;> infer_instance

/-- A handler for exceptions of one class, where stopping leaves a condition that work at the desk
does not disturb. -/
theorem ends_catching {name : String} {p : ShellM α} {h : Nat → ShellM α} {s : State}
    {Q : α → State → Prop} {E : State → Prop} {counts : Stop → Prop} [KeptClosed (Preserves E)]
    (raises : ∀ e, counts (.raised e)) (body : Ends (p s) Q E counts)
    (handled : ∀ e t, E t → Ends (h e t) Q E counts) :
    Ends (ShellM.catching name p h s) Q E counts := by
  refine body.tryCatch (fun e t left => ?_) fun e t holds => ?_
  · cases e with
    | raised e => exact absurd (raises e) left
    | _ => rfl
  · have thrown (e : Stop) {t : State} (holds : E t) : Ends ((throw e : ShellM α) t) Q E counts :=
      .error fun _ => holds
    cases e with
    | raised e =>
      have asked : Stays (Preserves E) (ShellM.ofDesk (DeskM.isA e name)) := inferInstance
      refine (Ends.of_stays asked holds).bind fun is u holds => ?_
      cases is with
      | true => exact handled e u holds
      | false => exact thrown _ holds
    | _ => exact thrown _ holds

instance kept_sessionLabel (f : Session) : Stays Kept (sessionLabel f) := by
  unfold sessionLabel
  infer_instance

instance kept_levelReport (f : InvalidLevel) : Stays Kept f.report := by
  unfold InvalidLevel.report
  infer_instance

instance stays_promptText : Stays R promptText := by
  unfold promptText
  refine .bind inferInstance fun s => ?_
  dsimp only
  split <;> infer_instance

theorem stays_afterwards {f : Option α → State → State} {p : ShellM α} (hp : Stays R p)
    (hf : ∀ a s, R s (f a s)) : Stays R (ShellM.afterwards f p) := by
  refine ⟨fun s => ?_⟩
  rw [afterwards_apply]
  cases h : p s with
  | ok a t => exact IsTrans.trans _ _ _ (hp.of_ok h) (hf _ t)
  | error e t => exact IsTrans.trans _ _ _ (hp.of_error h) (hf _ t)

end Desk

instance stays_setStatus [Marking R] (n : Nat) : Stays R (setStatus n) :=
  .modify fun s => Marking.mark s n

instance stays_markFailure [Marking R] (before : Option Nat) : Stays R (markFailure before) := by
  refine .modify fun s => ?_
  dsimp only
  split
  · exact Marking.mark s 1
  · exact Std.Refl.refl s

theorem stays_aside [Indifferent R] (f : Session) {e : Event} (h : e.IsAside) :
    Stays R (ShellM.note f e) := .modify fun s => Indifferent.aside s f _ h

instance stays_prompts [Indifferent R] (f : Session) (text : String) :
    Stays R (ShellM.note f (.prompts text)) := stays_aside f trivial

instance stays_shows [Indifferent R] (f : Session) (v : Code.Value) :
    Stays R (ShellM.note f (.shows v)) := stays_aside f trivial

/-- The sessions and the commands are the same. -/
def SameSessions (s t : State) : Prop :=
  t.stack.sessions = s.stack.sessions ∧ t.desk.registry.commands = s.desk.registry.commands

instance : Indifferent SameSessions where
  refl _ := ⟨rfl, rfl⟩
  trans _ _ _ first second := ⟨second.1.trans first.1, second.2.trans first.2⟩
  desk same := ⟨rfl, same.commands⟩
  text _ _ := ⟨rfl, rfl⟩
  aside _ _ _ _ _ := ⟨rfl, rfl⟩

/-! ## Commands -/

section Perform

variable {perform : Context → ShellM Reply} [KeptClosed R]

instance stays_recover (c : Command) (e : Stop) : Stays R (recover c e) := by
  have entered := kept_lastException
  cases e <;> unfold recover <;> infer_instance

instance stays_performIn [∀ ctx, Stays R (perform ctx)] (ctx : Context) :
    Stays R (performIn perform ctx) := by
  unfold performIn
  infer_instance

/-- A body with its line's command in the journal. -/
theorem stays_runBody_of {ctx : Context} {remainder : String} (hp : Stays R (perform ctx))
    (texts : ∀ (s : State) text, R s { s with desk := { s.desk with trailing := text } })
    (noted : Stays R (ShellM.note ctx.stack.top (.runs ctx.command remainder))) :
    Stays R (runBody perform ctx remainder) := by
  unfold runBody
  have entered : Stays R (ShellM.modifyDesk fun d => { d with trailing := remainder }) :=
    .modify fun s => texts s remainder
  have body : Stays R (performIn perform ctx) := by
    unfold performIn
    infer_instance
  have performed : Stays R (ShellM.afterwards
      (fun _ s => { s with desk := { s.desk with trailing := "" } }) (performIn perform ctx)) :=
    stays_afterwards body fun _ s => texts s ""
  infer_instance

instance stays_dispatchWith [∀ ctx remainder, Stays R (runBody perform ctx remainder)]
    (line : String) : Stays R (dispatchWith perform line) := by
  unfold dispatchWith
  refine .bind inferInstance fun s => ?_
  split
  · infer_instance
  · split <;> infer_instance

end Perform

instance stays_runBody {perform : Context → ShellM Reply} [Indifferent R]
    [∀ ctx, Stays R (perform ctx)] (ctx : Context) (remainder : String) :
    Stays R (runBody perform ctx remainder) :=
  stays_runBody_of inferInstance Indifferent.text (stays_aside _ trivial)

/-! ## Values and texts -/

section Shown

variable [KeptClosed R] [∀ f v, Stays R (ShellM.note f (.shows v))]

instance stays_showValue (v : Code.Value) : Stays R (showValue v) := by
  unfold showValue
  have shown : Stays Kept (modify fun d => { d with lastResult := v } : DeskM PUnit) :=
    .modify fun _ => {}
  infer_instance

instance stays_showEvaluated {R : State → State → Prop} [Marking R]
    [∀ f v, Stays R (ShellM.note f (.shows v))] (p : DeskM Code.Value)
    [Stays R (ShellM.ofDesk p)] : Stays R (showEvaluated p) := by
  unfold showEvaluated
  refine .bind ?_ fun value => ?_
  · refine .tryCatch inferInstance fun e => ?_
    cases e <;> infer_instance
  · split <;> infer_instance

instance stays_evaluateTexts {R : State → State → Prop} [Marking R]
    [∀ f v, Stays R (ShellM.note f (.shows v))] (texts : List String)
    [∀ f, Stays R (ShellM.note f (.evaluates texts))] : Stays R (evaluateTexts texts) := by
  unfold evaluateTexts
  infer_instance

end Shown

/-! ## Reading -/

section Reading

variable [ReadClosed R] [∀ f text, Stays R (ShellM.note f (.prompts text))]

instance stays_nextLine (prompt : String) : Stays R (nextLine prompt) := by
  unfold nextLine
  refine .bind inferInstance fun s => .bind inferInstance fun _ => ?_
  have replayed (rest : List String) :
      Stays Reads (modify fun d => { d with replay := rest } : DeskM PUnit) := .modify fun _ => {}
  refine stays_ofDesk_of (K := Reads) _ ?_ ReadClosed.reads
  split <;> infer_instance

instance stays_readNext : Stays R readNext := by
  unfold readNext
  infer_instance

end Reading

end NestShell.Shell

import NestShell.Proofs.Shell.Computation

/-!
# What work at the desk leaves alone

Evaluating and printing change the machine. They do not change the commands that there are, and none
of what the loops of the sessions keep at the desk: the lines that wait, those that are still to be
read, and how sessions end. Reading takes lines from the source or from those that are replayed, and
some commands give up a text that is not complete.
-/

namespace NestShell.Shell

variable {α : Type}

/-- The commands and what the loops of the sessions keep are the same, but for lines that were read
and a text that was given up. -/
structure Undisturbed (d e : Desk) : Prop where
  commands : e.registry.commands = d.registry.commands := by rfl
  history : e.history = d.history := by rfl
  evalUnmatched : e.evalUnmatched = d.evalUnmatched := by rfl
  exhausted : e.exhausted = d.exhausted := by rfl
  attached : e.attached = d.attached := by rfl
  continuation : e.continuation = d.continuation := by rfl
  unwound : e.unwound = d.unwound := by rfl
  trailing : e.trailing = d.trailing := by rfl
  pending : e.pending = d.pending ∨ e.pending = [] := by exact .inl rfl
  inputs : d.source.inputs = [] → e.source.inputs = [] := by exact id

/-- The same, and no text was given up. -/
structure Reads (d e : Desk) : Prop extends Undisturbed d e where
  waits : e.pending = d.pending := by rfl

/-- The same, and no line was read. The status is that of the last line that was handled. -/
structure Kept (d e : Desk) : Prop extends Reads d e where
  status : e.status = d.status := by rfl
  replay : e.replay = d.replay := by rfl
  source : e.source = d.source := by rfl

theorem Undisturbed.trans {d e f : Desk} (first : Undisturbed d e) (second : Undisturbed e f) :
    Undisturbed d f where
  commands := second.commands.trans first.commands
  history := second.history.trans first.history
  evalUnmatched := second.evalUnmatched.trans first.evalUnmatched
  exhausted := second.exhausted.trans first.exhausted
  attached := second.attached.trans first.attached
  continuation := second.continuation.trans first.continuation
  unwound := second.unwound.trans first.unwound
  trailing := second.trailing.trans first.trailing
  pending := by
    rcases second.pending with same | cleared
    · rw [same]
      exact first.pending
    · exact .inr cleared
  inputs := second.inputs ∘ first.inputs

theorem Reads.trans {d e f : Desk} (first : Reads d e) (second : Reads e f) : Reads d f where
  toUndisturbed := first.toUndisturbed.trans second.toUndisturbed
  waits := second.waits.trans first.waits

theorem Kept.trans {d e f : Desk} (first : Kept d e) (second : Kept e f) : Kept d f where
  toReads := first.toReads.trans second.toReads
  status := second.status.trans first.status
  replay := second.replay.trans first.replay
  source := second.source.trans first.source

instance : IsPreorder Desk Undisturbed where
  refl _ := {}
  trans _ _ _ := Undisturbed.trans

instance : IsPreorder Desk Kept where
  refl _ := {}
  trans _ _ _ := Kept.trans

/-- A relation that does not mind work that leaves alone what the loops keep. -/
class Tolerant (K : Desk → Desk → Prop) : Prop extends IsPreorder Desk K where
  kept {d e : Desk} : Kept d e → K d e

instance stays_of_kept {K : Desk → Desk → Prop} [Tolerant K] {p : DeskM α}
    [kept : Stays Kept p] : Stays K p := kept.mono fun _ _ => Tolerant.kept

instance : Tolerant Reads where
  refl _ := {}
  trans _ _ _ := Reads.trans
  kept := Kept.toReads

theorem Stays.undisturbed {p : DeskM α} (reads : Stays Reads p) : Stays Undisturbed p :=
  reads.mono fun _ _ => Reads.toUndisturbed

/-! ## The operations of the desk -/

open DeskM

instance kept_ofRun (p : Code.Run α) : Stays Kept (ofRun p) := by
  refine ⟨fun d => ?_⟩
  unfold ofRun
  rcases p d.lent with _ | ⟨_ | _⟩ <;> exact {}

instance kept_write (s : String) : Stays Kept (write s) := .modify fun _ => {}

instance kept_puts (s : String) : Stays Kept (puts s) := by
  unfold puts
  infer_instance

instance kept_putsError (s : String) : Stays Kept (putsError s) := by
  unfold putsError
  infer_instance

instance kept_raise (className message : String) :
    Stays Kept (raise className message : DeskM α) := by
  unfold raise
  infer_instance

instance kept_raiseBare (className : String) : Stays Kept (raiseBare className : DeskM α) := by
  unfold raiseBare
  infer_instance

instance kept_isA (e : Nat) (className : String) : Stays Kept (isA e className) := by
  unfold isA
  infer_instance

instance stays_catchingAtDesk {K : Desk → Desk → Prop} [IsPreorder Desk K] (className : String)
    {p : DeskM α} {h : Nat → DeskM α} [∀ e, Stays K (isA e className)] [Stays K p]
    [∀ e, Stays K (h e)] : Stays K (catching className p h) := by
  unfold catching
  refine .tryCatch inferInstance fun e => ?_
  cases e <;> infer_instance

instance kept_view (v : Code.Value) : Stays Kept (view v) := by
  unfold view
  infer_instance

instance kept_viewClip (v : Code.Value) : Stays Kept (viewClip v) := by
  unfold viewClip
  infer_instance

instance kept_errorText (e : Nat) : Stays Kept (errorText e) := by
  unfold errorText
  infer_instance

instance kept_evaluate (scope : Code.Scope) (source : String) :
    Stays Kept (evaluate scope source) := by
  unfold evaluate
  refine .bind inferInstance fun r => ?_
  cases r <;> infer_instance

theorem kept_lastException (e : Nat) :
    Stays Kept (modify fun d => { d with lastException := some e } : DeskM PUnit) :=
  .modify fun _ => {}

instance kept_report (e : Nat) : Stays Kept (report e) := by
  unfold report
  have entered := kept_lastException e
  infer_instance

instance kept_ask (c : Call) : Stays Kept (ask c) := .modify fun _ => {}

instance kept_bold (s : String) : Stays Kept (bold s) := by
  unfold bold
  infer_instance

instance kept_italic (s : String) : Stays Kept (italic s) := by
  unfold italic
  infer_instance

instance kept_highlighted (language : String) (start : Option Int) (code : String) :
    Stays Kept (highlighted language start code) := by
  unfold highlighted
  infer_instance

instance kept_rendered (v : Code.Value) : Stays Kept (rendered v) := by
  unfold rendered
  infer_instance

instance kept_page (flood : Bool) (text : String) : Stays Kept (page flood text) := by
  unfold page
  infer_instance

instance kept_pageTrimmed (flood : Bool) (text : String) : Stays Kept (pageTrimmed flood text) := by
  unfold pageTrimmed
  infer_instance

/-! ## Reading -/

instance kept_endOfInput (message : Option String) :
    Stays Kept (endOfInput message : DeskM α) := by
  unfold endOfInput
  split <;> infer_instance

instance kept_showPrompt (prompt : String) : Stays Kept (showPrompt prompt) := by
  unfold showPrompt
  infer_instance

instance reads_request (depth : Nat) (prompt : String) : Stays Reads (request depth prompt) := by
  unfold request
  refine .get_bind fun d => ?_
  -- what is logged leaves no more lines than there were
  have logged (answer : Option Input) (rest : List Input)
      (fewer : d.source.inputs = [] → rest = []) :
      Reads d (endState (logExchange depth prompt answer rest d)) := { inputs := fewer }
  have after {p : DeskM String} (answer : Option Input) (rest : List Input)
      (fewer : d.source.inputs = [] → rest = []) (hp : Stays Kept p) :
      Reads d (endState ((do logExchange depth prompt answer rest; showPrompt prompt; p) d)) :=
    (logged answer rest fewer).trans
      ((inferInstance : Stays Kept (do showPrompt prompt; p)).within _).toReads
  cases lines : d.source.inputs with
  | cons input rest =>
    have more : d.source.inputs = [] → rest = [] := by simp [lines]
    cases input with
    | line line => exact after _ rest more inferInstance
    | interrupt => exact after _ rest more inferInstance
  | nil =>
    cases d.source.ending with
    | awaiting => exact (inferInstance : Stays Reads (do showPrompt prompt; throw .awaiting)).within d
    | ended message => exact after none [] (fun _ => rfl) inferInstance

instance reads_readLine (depth : Nat) (prompt : String) : Stays Reads (readLine depth prompt) := by
  unfold readLine
  refine .get_bind fun d => ?_
  cases d.replay with
  | cons line rest => exact {}
  | nil =>
    have asked : Stays Reads (if d.attached then request depth prompt else endOfInput none) :=
      inferInstance
    exact asked.within d

end NestShell.Shell

import NestShell.Proofs.Commands.Bodies
import NestShell.Proofs.Commands.Catalog
import NestShell.Proofs.Shell.Admission
import NestShell.Proofs.Shell.Handling
import NestShell.Proofs.Shell.Reading

/-!
# Shells that have nothing to read

A shell may have nothing to read: its source has no lines, none are to be replayed, and there is no
history that lines could be taken from. A line that such a shell is given may start sessions, but
their loops find the input ended. So no other line is handled meanwhile, and when the body of the
line has ended the status at the desk is the one with which it began.
-/

namespace NestShell.Shell

open NestShell.Code

/-- There is nothing to read, and no command but the built-in ones, which take lines only from the
source and from the history. -/
structure Unfed (d : Desk) : Prop where
  inputs : d.source.inputs = []
  replay : d.replay = []
  history : d.history = none
  commands : d.registry.commands = Commands.registry.commands

/-- Where there is nothing to read it stays so, and the status is the same. -/
def Rests (d e : Desk) : Prop := Unfed d → Unfed e ∧ e.status = d.status

instance : Tolerant Rests where
  refl _ unfed := ⟨unfed, rfl⟩
  trans _ _ _ first second unfed :=
    have ⟨unfed, same⟩ := first unfed
    have ⟨unfed, same'⟩ := second unfed
    ⟨unfed, same'.trans same⟩
  kept same unfed :=
    ⟨⟨same.source ▸ unfed.inputs, same.replay.trans unfed.replay,
      same.history.trans unfed.history, same.commands.trans unfed.commands⟩, same.status⟩

/-! ## At the desk -/

section Reading

variable {d : Desk} (depth : Nat) (prompt : String)

/-- A source without lines is asked, and tells so. -/
theorem request_unfed (unfed : Unfed d) :
    ∃ (p : DeskM String) (u : Desk), Stays Kept p ∧ (∀ e line f, p e ≠ .ok line f) ∧
      Rests d u ∧ DeskM.request depth prompt d = p u := by
  unfold DeskM.request
  rw [bind_apply, get_apply]
  dsimp only
  rw [unfed.inputs]
  cases d.source.ending with
  | awaiting =>
    refine ⟨do DeskM.showPrompt prompt; throw .awaiting, d, inferInstance, ?_, Std.Refl.refl d, rfl⟩
    intro e line f answered
    rw [bind_apply, showPrompt_apply] at answered
    cases answered
  | ended message =>
    let u := logged depth prompt none [] d
    have rests : Rests d u :=
      fun _ => ⟨⟨rfl, unfed.replay, unfed.history, unfed.commands⟩, rfl⟩
    have gives : Gives (fun _ => False) (DeskM.endOfInput message : DeskM String) := by
      unfold DeskM.endOfInput DeskM.raiseBare Code.Run.raiseBare
      split <;> infer_instance
    exact ⟨DeskM.endOfInput message, u, inferInstance, fun _ _ _ given => gives.result given, rests,
      logged_apply depth prompt none [] _ d⟩

instance rests_request : Stays Rests (DeskM.request depth prompt) := by
  refine ⟨fun d unfed => ?_⟩
  obtain ⟨p, u, kept, -, rests, same⟩ := request_unfed depth prompt unfed
  rw [same]
  exact IsTrans.trans _ _ _ rests (Tolerant.kept (kept.within u)) unfed

instance rests_readLine : Stays Rests (DeskM.readLine depth prompt) := by
  refine ⟨fun d unfed => ?_⟩
  have asked : Stays Rests
      (if d.attached then DeskM.request depth prompt else DeskM.endOfInput none) := inferInstance
  unfold DeskM.readLine
  rw [bind_apply, get_apply]
  dsimp only
  rw [unfed.replay]
  exact asked.within d unfed

end Reading

/-! ## In the shell -/

/-- The same for the desks of states. -/
def Resting (s t : State) : Prop := Rests s.desk t.desk

instance : KeptClosed Resting where
  refl s := Std.Refl.refl s.desk
  trans s t u := IsTrans.trans s.desk t.desk u.desk
  kept := Tolerant.kept

instance resting_note (f : Session) (e : Event) : Stays Resting (ShellM.note f e) :=
  .modify fun s => Std.Refl.refl s.desk

theorem resting_text (s : State) (text : String) :
    Resting s { s with desk := { s.desk with trailing := text } } :=
  fun unfed => ⟨⟨unfed.inputs, unfed.replay, unfed.history, unfed.commands⟩, rfl⟩

section Loops

variable {s t : State} {f : Session} {perform : Context → ShellM Reply}

instance resting_nextLine (prompt : String) : Stays Resting (nextLine prompt) := by
  refine ⟨fun s unfed => ?_⟩
  have asked : Stays Resting (ShellM.ofDesk (DeskM.request s.stack.depth prompt)) :=
    stays_ofDesk_of _ (rests_request _ prompt) id
  rw [nextLine_source prompt unfed.replay]
  exact asked.within (prompted prompt s) unfed

theorem nextLine_unfed {prompt line : String} (unfed : Unfed s.desk) :
    nextLine prompt s ≠ .ok line t := by
  intro read
  obtain ⟨p, u, -, never, -, same⟩ :=
    @request_unfed (prompted prompt s).desk s.stack.depth prompt unfed
  rw [nextLine_source prompt unfed.replay, ofDesk_apply, same] at read
  cases came : p u with
  | ok line d => exact never u line d came
  | error e d =>
    rw [came] at read
    cases read

instance resting_readNext : Stays Resting readNext := by
  unfold readNext
  infer_instance

theorem readNext_unfed {line : String} (unfed : Unfed s.desk) :
    readNext s ≠ .ok (.line line) t := by
  intro read
  unfold readNext at read
  obtain read | ⟨_, _, _, _, _, interrupted⟩ := catching_ok read
  · obtain read | ⟨_, _, _, _, _, ended⟩ := catching_ok read
    · obtain ⟨prompt, u, made, read⟩ := bind_ok read
      obtain ⟨_, _, read, _⟩ := bind_ok read
      have made_ : Stays Resting promptText := inferInstance
      exact nextLine_unfed (made_.of_ok made unfed).1 read
    · cases ended
  · cases interrupted

/-- A loop that has nothing to read takes no line. -/
instance resting_turn : Stays Resting (turn perform f) := by
  refine ⟨fun s unfed => ?_⟩
  let asked : State := { s with stack := s.stack.note f .asks s.desk.waiting }
  rw [turn_apply, bind_apply]
  cases came : readNext asked with
  | error e u => exact (resting_readNext.of_error came : Resting asked u) unfed
  | ok r u =>
    have read : Resting asked u := resting_readNext.of_ok came
    refine IsTrans.trans s.desk u.desk _ read ?_ unfed
    cases r with
    | line line => exact absurd came (readNext_unfed (s := asked) unfed)
    | ended =>
      have ended : Stays Resting (stepLoop perform f .ended) :=
        stays_ended f (fun _ h => ⟨⟨h.inputs, h.replay, h.history, h.commands⟩, rfl⟩) inferInstance
      exact ended.within u
    | interrupted =>
      have reset : Stays Resting resetBuffers :=
        .modify fun _ h => ⟨⟨h.inputs, h.replay, h.history, h.commands⟩, rfl⟩
      have interrupted : Stays Resting (stepLoop perform f .interrupted) := by
        unfold stepLoop
        infer_instance
      exact interrupted.within u

theorem resting_startSession (receiver : Value) : Stays Resting (startSession perform receiver) :=
  stays_startSession (fun {s _} _ => Std.Refl.refl s.desk) inferInstance inferInstance
    (fun _ => resting_turn) receiver

end Loops

/-- What holds across a body, and does not mind which text a body has, holds across what becomes of
its reply or its stop. -/
theorem concluded_within {S : State → State → Prop} [KeptClosed S]
    (texts : ∀ (s : State) text, S s { s with desk := { s.desk with trailing := text } })
    {s : State} {r : EStateM.Result Stop State Reply} (c : Command) (body : S s (endState r)) :
    S s (endState (concluded c r)) := by
  cases r with
  | ok reply t => exact IsTrans.trans _ _ _ body (texts t "")
  | error e t =>
    have recovered : Stays S (recover c e) := inferInstance
    refine IsTrans.trans _ _ _ body ?_
    unfold concluded
    dsimp only
    cases came : recover c e t with
    | ok signal u => exact IsTrans.trans _ _ _ (recovered.of_ok came) (texts u "")
    | error e u => exact IsTrans.trans _ _ _ (recovered.of_error came) (texts u "")

end NestShell.Shell

namespace NestShell.Commands

open NestShell.Shell

variable {ctx : Context}

theorem rests_runHist : Stays Rests (runHist ctx) := by
  refine ⟨fun d unfed => ?_⟩
  obtain ⟨lines, kept, few⟩ := @runHist_queues ctx d 0 fun h some =>
    absurd (unfed.history.symm.trans some) nofun
  obtain rfl : lines = [] := List.length_eq_zero_iff.mp (Nat.le_zero.mp few)
  rw [List.append_nil] at kept
  exact (Tolerant.kept kept : Rests d _) unfed

theorem rests_runAtDesk (b : Command.Builtin) : Stays Rests (runAtDesk ctx b) :=
  stays_runAtDesk ctx (.modify fun _ h => ⟨⟨h.inputs, h.replay, h.history, h.commands⟩, rfl⟩)
    fun _ => rests_runHist

/-- A built-in body rests as far as the lines do that it hands to the shell. -/
theorem resting_bodies_of {back : Reentry} (run : ∀ line, Stays Resting (back.run line))
    (start : ∀ receiver, Stays Resting (back.start receiver))
    (builtin : ctx.command ∈ registry.commands) : Stays Resting (bodies back ctx) := by
  obtain ⟨b, body⟩ := builtin_of_mem builtin
  have built : Built Rests back (bodies back ctx) := by
    unfold bodies
    rw [body]
    exact built_runBuiltin back ctx (rests_runAtDesk b)
  exact built.stays id (fun s _ => Std.Refl.refl s.desk) run start

/-- What a line is dispatched to rests: it is a built-in body. -/
theorem resting_dispatch {back : Reentry} (run : ∀ line, Stays Resting (back.run line))
    (start : ∀ receiver, Stays Resting (back.start receiver)) (line : String) :
    Stays Resting (dispatchWith (bodies back) line) := by
  refine ⟨fun s unfed => ?_⟩
  rcases s.admits_or_refuses line with ⟨m, tokens, options, admits⟩ | ⟨o, text, refuses⟩
  · have builtin : m.command ∈ registry.commands :=
      unfed.commands ▸ Registry.mem_of_match? admits.found
    let ctx : Context := ⟨m.command, line, options, s.stack.top.scope, s.stack⟩
    have body := (@resting_bodies_of ctx back run start builtin).within (entered s ctx m.remainder)
    have begun : Resting s (entered s ctx m.remainder) := resting_text s m.remainder
    rw [dispatchWith_admitted admits]
    exact concluded_within resting_text m.command (IsTrans.trans _ _ _ begun body) unfed
  · rw [dispatchWith_refused refuses]
    exact ⟨⟨unfed.inputs, unfed.replay, unfed.history, unfed.commands⟩, rfl⟩

/-- However deep bodies nest, nothing is read and the status stays. -/
theorem resting_reentry (fuel : Nat) :
    (∀ line, Stays Resting ((reentry bodies fuel).run line)) ∧
      ∀ receiver, Stays Resting ((reentry bodies fuel).start receiver) := by
  induction fuel with
  | zero => exact ⟨fun _ => stays_throw _, fun _ => stays_throw _⟩
  | succ fuel ih => exact ⟨resting_dispatch ih.1 ih.2, resting_startSession⟩

theorem resting_perform (builtin : ctx.command ∈ registry.commands) :
    Stays Resting (perform ctx) :=
  have ⟨run, start⟩ := resting_reentry nestingFuel
  resting_bodies_of run start builtin

end NestShell.Commands

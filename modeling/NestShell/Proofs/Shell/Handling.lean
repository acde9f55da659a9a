import NestShell.Proofs.Shell.Line
import NestShell.Proofs.Shell.Loop
import NestShell.Proofs.Shell.Stack

/-!
# Relations that handling a line keeps

Some relations do not mind what a line leads to, only how loops ask for lines and take them, what
bodies do, and how the input ends. They hold across the handling of every line as far as they hold
across bodies and signals; and many do not mind signals either.
-/

namespace NestShell.Shell

/-- Entries that tell what a line leads to, its body and signals apart. -/
def Event.IsHandling : Event → Prop
  | .interrupted | .submits _ | .keeps | .evaluates _ | .shows _ => True
  | _ => False

/-- Nothing has changed that is to be read, nor the commands, nor what bodies and signals leave at
the desk. -/
structure Registers (d e : Desk) : Prop where
  commands : e.registry.commands = d.registry.commands := by rfl
  exhausted : e.exhausted = d.exhausted := by rfl
  source : e.source = d.source := by rfl
  replay : e.replay = d.replay := by rfl
  history : e.history = d.history := by rfl
  unwound : e.unwound = d.unwound := by rfl
  trailing : e.trailing = d.trailing := by rfl

/-- A relation that minds nothing of what a line leads to, its body and signals apart. -/
class Lenient (R : State → State → Prop) : Prop extends KeptClosed R where
  note (s : State) (f : Session) {e : Event} (n : Nat) :
    e.IsHandling → R s { s with stack := s.stack.note f e n }
  register {s : State} {d : Desk} : Registers s.desk d → R s { s with desk := d }

/-- A relation that does not mind signals either: cuts of the stack and values that are carried. -/
class Permissive (R : State → State → Prop) : Prop extends Lenient R where
  leaves (s : State) (f : Session) (left : List Session) (level value : Code.Value) (n : Nat) :
    R s { s with stack := s.stack.note f (.leaves left level value) n }
  carry (s : State) (value : Code.Value) : R s { s with desk := { s.desk with unwound := value } }
  cut {s : State} {k : Stack} :
    k.sessions <+: s.stack.sessions → k.journal = s.stack.journal → R s { s with stack := k }

variable {R : State → State → Prop} {perform : Context → ShellM Reply}

instance [Lenient R] : Marking R where
  mark _ _ := Lenient.register {}

/-! ## Signals -/

/-- Where there is no level to leave to, no session is left and only the desk is worked at. -/
theorem leaveTo_refused {s : State} {level : Code.Value} (value : Code.Value) {e : InvalidLevel}
    (refused : s.stack.breakout level = .error e) :
    (∃ d n, Kept s.desk d ∧
      endState (leaveTo level value s) = { s with desk := { d with status := n } }) ∧
      ∀ t, leaveTo level value s ≠ .ok true t := by
  let report : DeskM Unit := do DeskM.puts (← e.report)
  have reported : Stays Kept report := inferInstance
  have told : leaveTo level value s =
      (do ShellM.ofDesk report; setStatus 1; return false : ShellM Bool) s :=
    leaveTo_error s value refused
  rw [told, bind_apply, ofDesk_apply]
  cases done : report s.desk with
  | error stop d => exact ⟨⟨d, d.status, reported.of_error done, rfl⟩, fun _ other => by cases other⟩
  | ok _ d => exact ⟨⟨d, 1, reported.of_ok done, rfl⟩, fun _ other => by cases other⟩

/-- What holds across leaving sessions for a lower one holds across every signal. -/
theorem stays_leaveTo_of {S : State → State → Prop} [Marking S] {level value : Code.Value}
    (leaves : ∀ s k, s.stack.breakout level = .ok k → S s (leftTo s k level value)) :
    Stays S (leaveTo level value) := by
  refine ⟨fun s => ?_⟩
  cases left : s.stack.breakout level with
  | ok k =>
    rw [leaveTo_apply s left]
    exact leaves s k left
  | error e =>
    obtain ⟨⟨d, n, kept, same⟩, -⟩ := leaveTo_refused value left
    rw [same]
    exact IsTrans.trans _ _ _ (KeptClosed.kept kept) (Marking.mark { s with desk := d } n)

instance stays_leaveTo [Permissive R] (level value : Code.Value) :
    Stays R (leaveTo level value) := by
  refine stays_leaveTo_of fun s k left => ?_
  let cut : State := { s with stack := k }
  have shorter : R s cut :=
    Permissive.cut (s.stack.breakout_prefix left) (s.stack.breakout_journal left)
  have carried : R cut ⟨k, { s.desk with unwound := value }⟩ := Permissive.carry cut value
  have noted := Permissive.leaves (R := R) ⟨k, { s.desk with unwound := value }⟩ s.stack.top
    s.stack.sessions level value s.desk.waiting
  exact IsTrans.trans _ _ _ shorter (IsTrans.trans _ _ _ carried noted)

/-! ## What a line leads to -/

section Handling

variable [Lenient R]

theorem stays_note (f : Session) {e : Event} (handling : e.IsHandling) :
    Stays R (ShellM.note f e) := .modify fun s => Lenient.note s f _ handling

instance stays_shows_lenient (f : Session) (v : Code.Value) :
    Stays R (ShellM.note f (.shows v)) := stays_note f trivial

theorem stays_register {f : Desk → Desk} (h : ∀ d, Registers d (f d)) :
    Stays R (ShellM.modifyDesk f) := .modify fun s => Lenient.register (h s.desk)

instance stays_evaluation {R : State → State → Prop} [Marking R]
    [∀ f v, Stays R (ShellM.note f (.shows v))] (source : String) : Stays R (evaluation source) := by
  refine ⟨fun u => ?_⟩
  unfold evaluation
  exact (stays_showEvaluated (DeskM.evaluate u.stack.top.scope source)).within u

instance stays_handleUnmatched (line : String) : Stays R (handleUnmatched line) := by
  unfold handleUnmatched
  have joined (texts : List String) :
      Stays R (ShellM.modifyDesk fun d => { d with pending := texts }) := stays_register fun _ => {}
  have kept (f : Session) : Stays R (ShellM.note f .keeps) := stays_note f trivial
  have evaluated (f : Session) (texts : List String) :
      Stays R (ShellM.note f (.evaluates texts)) := stays_note f trivial
  refine .bind inferInstance fun s => ?_
  split
  · infer_instance
  · refine .bind (joined _) fun _ => .bind inferInstance fun _ => ?_
    split <;> infer_instance

instance stays_resetBuffers : Stays R resetBuffers := stays_register fun _ => {}

instance stays_takeLine [∀ f line, Stays R (ShellM.note f (.takes line))]
    [∀ text, Stays R (ShellM.modifyDesk (recordLine text))] (f : Session) (line : String) :
    Stays R (takeLine f line) := by
  unfold takeLine
  have joined : Stays R (ShellM.modifyDesk fun d => (joinLine d line).1) := by
    refine stays_register fun d => ?_
    obtain ⟨texts, same⟩ := joinLine_eq d line
    rw [same]
    exact {}
  have submitted (text : String) : Stays R (ShellM.note f (.submits text)) := stays_note f trivial
  refine .bind inferInstance fun s => .bind inferInstance fun _ => .bind inferInstance fun _ => ?_
  split <;> infer_instance

theorem stays_interrupted (f : Session) : Stays R (stepLoop perform f .interrupted) := by
  have interrupted : Stays R (ShellM.note f .interrupted) := stays_note f trivial
  unfold stepLoop
  infer_instance

/-- The end of the input, for relations that may mind it. -/
theorem stays_ended {S : State → State → Prop} [KeptClosed S] (f : Session)
    (exhausts : ∀ s : State,
      S s { s with desk := { s.desk with exhausted := true, unwound := .none } })
    (ends : Stays S (ShellM.note f .ends)) : Stays S (stepLoop perform f .ended) := by
  have exhausted : Stays S
      (ShellM.modifyDesk fun d => { d with exhausted := true, unwound := .none }) := .modify exhausts
  unfold stepLoop
  infer_instance

/-- What holds across a signal in one state holds across obeying any outcome there. -/
theorem obey_within {s : State} (o : Outcome)
    (signals : ∀ level value, R s (endState (leaveTo level value s))) :
    R s (endState (obey o s)) := by
  have other (quiet : Stays R (obey o)) : R s (endState (obey o s)) := quiet.within s
  cases o with
  | noSuchCommand line => exact other (by unfold obey; infer_instance)
  | parseFailure reason command => exact other (by unfold obey; infer_instance)
  | handled signal =>
    cases signal with
    | skip => exact other (by unfold obey; infer_instance)
    | proceed v => cases v <;> exact other (by unfold obey; infer_instance)
    | breakout level value =>
      have left := signals level value
      unfold obey
      dsimp only
      rw [bind_apply]
      cases done : leaveTo level value s with
      | ok is t => rwa [done] at left
      | error e t => rwa [done] at left

instance stays_obey [left : ∀ level value, Stays R (leaveTo level value)] (o : Outcome) :
    Stays R (obey o) := ⟨fun s => obey_within o fun level value => (left level value).within s⟩

instance stays_obeyAt [∀ level value, Stays R (leaveTo level value)] (depth : Nat) (o : Outcome) :
    Stays R (obeyAt depth o) := by
  unfold obeyAt
  infer_instance

variable [∀ depth o, Stays R (obeyAt depth o)]
  [∀ ctx remainder, Stays R (runBody perform ctx remainder)]

instance stays_handle (line : String) : Stays R (handle perform line) := by
  unfold handle
  infer_instance

instance stays_handleText (f : Session) (text : String) : Stays R (handleText perform f text) := by
  unfold handleText handleInterruptible
  have interrupted : Stays R (ShellM.note f .interrupted) := stays_note f trivial
  refine .bind inferInstance fun signal => ?_
  split <;> infer_instance

/-- Whatever a loop has read, but for the end of its input. -/
theorem stays_stepLoop [∀ f line, Stays R (ShellM.note f (.takes line))]
    [∀ text, Stays R (ShellM.modifyDesk (recordLine text))] (f : Session) {r : Reading}
    (other : r ≠ .ended) : Stays R (stepLoop perform f r) := by
  cases r with
  | ended => exact absurd rfl other
  | interrupted => exact stays_interrupted f
  | line line =>
    refine .bind inferInstance fun text => ?_
    split <;> infer_instance

end Handling

/-! ## Texts

Other relations mind what becomes of a text that no command has.
-/

section Texts

variable {S : State → State → Prop} [Marking S] {s : State} {text : String}

variable (perform) in
/-- A text that no command has is kept or evaluated, unless the input has ended. -/
theorem handle_unmatched (none : s.desk.registry.match? text = none) :
    handle perform text s =
      if s.desk.exhausted then .ok Option.none s.begun
      else (do handleUnmatched (Text.trimEndOf ['\r', '\n'] text); return Option.none) s.begun := by
  have dispatched : dispatchWith perform text s.begun =
      .ok (.noSuchCommand (Text.trimEndOf ['\r', '\n'] text)) s.begun := by
    rw [dispatchWith_apply, show s.begun.desk.registry.match? text = Option.none from none]
  have same : s.marked s.begun = s.begun := State.marked_same rfl
  have here : decide (s.begun.stack.depth < s.stack.depth) = false :=
    decide_eq_false (Nat.lt_irrefl _)
  rw [handle_apply, dispatched]
  dsimp only
  rw [same, obeyAt_apply, here, Bool.false_or]
  rfl

/-- What holds across showing values and across signals holds across obeying all that a line with a
command leads to. -/
theorem stays_obey_command [∀ f v, Stays S (ShellM.note f (.shows v))]
    [∀ level value, Stays S (leaveTo level value)] {o : Outcome}
    (other : ∀ line, o ≠ .noSuchCommand line) : Stays S (obey o) := by
  unfold obey
  split
  · next line => exact absurd rfl (other line)
  all_goals infer_instance

/-- What holds across bodies, shown values and signals, and for this text across keeping it, holds
across handling it. -/
theorem handle_within [∀ ctx remainder, Stays S (runBody perform ctx remainder)]
    [∀ f v, Stays S (ShellM.note f (.shows v))] [∀ level value, Stays S (leaveTo level value)]
    (unmatched : s.desk.registry.match? text = none →
      S s.begun (endState (handleUnmatched (Text.trimEndOf ['\r', '\n'] text) s.begun))) :
    S s (endState (handle perform text s)) := by
  have begun : S s s.begun := Marking.mark s 0
  cases found : s.desk.registry.match? text with
  | none =>
    rw [handle_unmatched perform found]
    refine IsTrans.trans _ _ _ begun ?_
    split
    · exact Std.Refl.refl _
    · have handled := unmatched found
      rw [bind_apply]
      cases done : handleUnmatched (Text.trimEndOf ['\r', '\n'] text) s.begun with
      | ok _ t => rwa [done] at handled
      | error e t => rwa [done] at handled
  | some m =>
    have dispatched : Stays S (dispatchWith perform text) := inferInstance
    rw [handle_apply]
    refine IsTrans.trans _ _ _ begun ?_
    cases done : dispatchWith perform text s.begun with
    | error e t => exact dispatched.of_error done
    | ok o t =>
      have other (line : String) : o ≠ .noSuchCommand line := by
        rintro rfl
        rcases dispatchWith_ok done with ⟨none, -, -⟩ | ⟨_, _, other⟩ | other | ⟨_, _, _, _, other, _⟩
        · cases found.symm.trans none
        all_goals cases other
      have marked : S t (s.marked t) := by
        obtain ⟨n, same⟩ := s.marked_eq t
        rw [same]
        exact Marking.mark t n
      refine IsTrans.trans _ _ _ (dispatched.of_ok done) (IsTrans.trans _ _ _ marked ?_)
      dsimp only
      rw [obeyAt_apply]
      split
      · exact Std.Refl.refl _
      · exact (stays_obey_command other).within _

theorem handleText_within {f : Session} (handled : S s (endState (handle perform text s)))
    (interrupted : Stays S (do
      resetBuffers; ShellM.ofDesk (DeskM.puts "^C"); ShellM.note f .interrupted)) :
    S s (endState (handleText perform f text s)) := by
  unfold handleText handleInterruptible ShellM.catching
  rw [bind_apply, tryCatch_apply, bind_apply]
  cases done : handle perform text s with
  | ok signal t =>
    rw [done] at handled
    exact handled
  | error stop t =>
    rw [done] at handled
    cases stop with
    | raised e =>
      dsimp only
      rw [bind_apply]
      have asked : Stays S (ShellM.ofDesk (DeskM.isA e "KeyboardInterrupt")) := inferInstance
      cases is : ShellM.ofDesk (DeskM.isA e "KeyboardInterrupt") t with
      | error stop u => exact IsTrans.trans _ _ _ handled (asked.of_error is)
      | ok caught u =>
        have stopped := IsTrans.trans _ _ _ handled (asked.of_ok is)
        cases caught with
        | false => exact stopped
        | true => exact IsTrans.trans _ _ _ stopped (interrupted.within u)
    | _ => exact handled

end Texts

/-! ## Loops -/

section Loops

variable {S : State → State → Prop}

/-- What holds across each turn, and where a line is asked for, holds across a loop. -/
theorem stays_sessionLoop [IsPreorder State S] {f : Session} [Stays S (ShellM.note f .asks)]
    (turns : Stays S (turn perform f)) (fuel : Nat) : Stays S (sessionLoop perform f fuel) := by
  induction fuel with
  | zero =>
    rw [sessionLoop]
    infer_instance
  | succ fuel ih =>
    rw [sessionLoop]
    infer_instance

variable [∀ f, Stays S (ShellM.note f .asks)]

/-- A relation between journals and desks holds across sessions that are started, as far as it holds
across the turns of their loops and does not mind that sessions are opened, and closed with the
value that is carried then. -/
theorem stays_startSession_of [KeptClosed S]
    (restack : ∀ {s : State} {k : Stack}, k.journal = s.stack.journal →
      S s { s with stack := k })
    (opens : ∀ f, Stays S (ShellM.note f .opens))
    (closes : ∀ f (s : State) result, (∀ v, result = some v → v = s.desk.unwound) →
      S s { s with stack := s.stack.note f (.closes result) s.desk.waiting })
    (turns : ∀ f, Stays S (turn perform f)) (receiver : Code.Value) :
    Stays S (startSession perform receiver) := by
  unfold startSession openSession
  have pushed (receiver : Code.Value) (scope : Code.Scope) (label : String) : Stays S
      (modify fun s => { s with stack := s.stack.push receiver scope label } : ShellM PUnit) :=
    .modify fun _ => restack rfl
  have shut (f : Session) (s : State) (result : Option Code.Value)
      (carried : ∀ v, result = some v → v = s.desk.unwound) : S s (close f result s) :=
    IsTrans.trans _ _ _ (restack (s.stack.release_journal f))
      (closes f { s with stack := s.stack.release f } result carried)
  have closed (f : Session) (fuel : Nat) :
      Stays S (ShellM.afterwards (close f) (sessionLoop perform f fuel)) := by
    refine ⟨fun s => ?_⟩
    have looped := stays_sessionLoop (turns f) fuel
    rw [afterwards_apply]
    cases done : sessionLoop perform f fuel s with
    | ok v t =>
      refine IsTrans.trans _ _ _ (looped.of_ok done) (shut f t (some v) ?_)
      exact fun w same => Option.some.inj same ▸ sessionLoop_value done
    | error e t => exact IsTrans.trans _ _ _ (looped.of_error done) (shut f t none nofun)
  infer_instance

/-- The same for relations that do not mind with which value a session is closed. -/
theorem stays_startSession [KeptClosed S]
    (restack : ∀ {s : State} {k : Stack}, k.journal = s.stack.journal →
      S s { s with stack := k })
    (opens : ∀ f, Stays S (ShellM.note f .opens))
    (closes : ∀ f result, Stays S (ShellM.note f (.closes result)))
    (turns : ∀ f, Stays S (turn perform f)) (receiver : Code.Value) :
    Stays S (startSession perform receiver) :=
  stays_startSession_of restack opens (fun f s result _ => (closes f result).within s) turns
    receiver

end Loops

end NestShell.Shell

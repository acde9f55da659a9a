import NestShell.Proofs.Commands.Bodies
import NestShell.Proofs.Shell.Fresh
import NestShell.Proofs.Shell.Handling
import NestShell.Proofs.Shell.Leaving
import NestShell.Proofs.Shell.Ledger

/-!
# What sessions give

The value that a session gives is read from one place at the desk, which all sessions share. A
signal that is obeyed writes its value there and the end of the input writes none. Nothing else
does, neither the start of a session nor its release, so a session gives the value of the latest
signal of the run, whichever sessions that signal left. Once the input has ended, no signal is
obeyed any more.
-/

namespace NestShell.Shell

open NestShell.Code

/-- The value that is carried after an event. -/
def Event.carried (before : Value) : Event → Value
  | .leaves _ _ value => value
  | .ends => .none
  | _ => before

/-- Events that set the value that is carried, or give it. -/
def Event.IsResult : Event → Prop
  | .leaves .. | .ends | .closes _ => True
  | _ => False

/-- The value that is carried at the end of a journal. -/
def carried (journal : List Entry) : Value := journal.foldl (fun v e => e.event.carried v) .none

theorem carried_concat (journal : List Entry) (e : Entry) :
    carried (journal ++ [e]) = e.event.carried (carried journal) := by
  unfold carried
  rw [List.foldl_append]
  rfl

theorem carried_of_no_leave {journal : List Entry} (h : ∀ e ∈ journal, ¬ e.event.IsLeave) :
    carried journal = .none := by
  induction journal with
  | nil => rfl
  | cons e rest ih =>
    have other := h e List.mem_cons_self
    have none : e.event.carried .none = .none := by
      cases event : e.event with
      | leaves left level value =>
        rw [event] at other
        exact absurd trivial other
      | _ => rfl
    unfold carried at ih ⊢
    rw [List.foldl_cons, none]
    exact ih fun d member => h d (List.mem_cons_of_mem e member)

/-- A loop has found that the input has ended. -/
def Exhausted (journal : List Entry) : Prop := ∃ e ∈ journal, e.event = .ends

theorem exhausted_concat {journal : List Entry} {e : Entry} (h : Exhausted (journal ++ [e])) :
    Exhausted journal ∨ e.event = .ends := by
  obtain ⟨d, member, ends⟩ := h
  rcases List.mem_append.mp member with old | new
  · exact .inl ⟨d, old, ends⟩
  · exact .inr (List.mem_singleton.mp new ▸ ends)

/-- A session that is over has given the value that the journal before it tells of, and none once
the input had ended. -/
def Entry.GivesCarried (pre : List Entry) (e : Entry) : Prop :=
  ∀ v, e.event = .closes (some v) → v = carried pre ∧ (Exhausted pre → v = .none)

/-- The value at the desk is the one that the journal tells of, none once the input has ended, and
sessions that are over have given the one of their time. -/
structure CarriesLatest (s : State) : Prop where
  unwound : s.desk.unwound = carried s.stack.journal
  atEnd : s.desk.exhausted = true → s.desk.unwound = .none
  ended : Exhausted s.stack.journal → s.desk.exhausted = true
  closed : Throughout Entry.GivesCarried s.stack.journal

namespace CarriesLatest

variable {s : State}

theorem desk (h : CarriesLatest s) {d : Desk} (unwound : d.unwound = s.desk.unwound)
    (exhausted : d.exhausted = s.desk.exhausted) : CarriesLatest { s with desk := d } :=
  ⟨unwound.trans h.unwound, fun atEnd => unwound.trans (h.atEnd (exhausted ▸ atEnd)),
    fun ends => exhausted.trans (h.ended ends), h.closed⟩

theorem restack (h : CarriesLatest s) {k : Stack} (same : k.journal = s.stack.journal) :
    CarriesLatest { s with stack := k } :=
  ⟨h.unwound.trans (same ▸ rfl), h.atEnd, fun ends => h.ended (same ▸ ends), same ▸ h.closed⟩

/-- An entry with the desk as it is after it. A session is closed with the value that is carried. -/
theorem enter (h : CarriesLatest s) (f : Session) (e : Event) (n : Nat) {d : Desk}
    (unwound : d.unwound = e.carried s.desk.unwound)
    (atEnd : d.exhausted = true → d.unwound = .none)
    (ended : s.desk.exhausted = true ∨ e = .ends → d.exhausted = true)
    (closes : ∀ v, e = .closes (some v) → v = s.desk.unwound) :
    CarriesLatest ⟨s.stack.note f e n, d⟩ where
  unwound := by rw [unwound, h.unwound, Stack.note_journal, carried_concat]
  atEnd := atEnd
  ended ends := ended ((exhausted_concat ends).imp_left h.ended)
  closed := by
    refine h.closed.note fun v closing => ?_
    obtain rfl := closes v closing
    exact ⟨h.unwound, fun ends => h.atEnd (h.ended ends)⟩

/-- An entry that neither sets the value that is carried nor gives it. -/
theorem note (h : CarriesLatest s) (f : Session) {e : Event} (n : Nat) (other : ¬ e.IsResult) :
    CarriesLatest { s with stack := s.stack.note f e n } := by
  cases e with
  | leaves | ends | closes => exact absurd trivial other
  | _ => exact h.enter f _ n rfl h.atEnd (fun ends => ends.resolve_right (by simp)) (by simp)

theorem close (h : CarriesLatest s) (f : Session) (result : Option Value) (n : Nat)
    (given : ∀ v, result = some v → v = s.desk.unwound) :
    CarriesLatest { s with stack := s.stack.note f (.closes result) n } :=
  h.enter f _ n rfl h.atEnd (fun ends => ends.resolve_right (by simp)) fun v closes =>
    given v (Event.closes.inj closes)

end CarriesLatest

instance : Indifferent (Preserves CarriesLatest) where
  desk same h := h.desk same.unwound same.exhausted
  text _ _ h := h.desk rfl rfl
  aside _ f e n aside h := by
    cases e with
    | prompts | runs | shows => exact h.note f n id
    | _ => cases aside

instance : Lenient (Preserves CarriesLatest) where
  note _ f e n handling h := by
    cases e with
    | interrupted | submits | keeps | evaluates | shows => exact h.note f n id
    | _ => cases handling
  register same h := h.desk same.unwound same.exhausted

/-- Before the end of the input a signal may carry its value. -/
theorem CarriesLatest.after_leaveTo {s : State} (h : CarriesLatest s)
    (goesOn : s.desk.exhausted = false) (level value : Value) :
    CarriesLatest (endState (leaveTo level value s)) := by
  cases left : s.stack.breakout level with
  | ok k =>
    rw [leaveTo_apply s left]
    have cut := h.restack (s.stack.breakout_journal left)
    refine cut.enter s.stack.top (.leaves s.stack.sessions level value) _ rfl ?_ ?_ (by simp)
    · exact fun atEnd => absurd (goesOn.symm.trans atEnd) Bool.false_ne_true
    · exact fun ends => ends.resolve_right (by simp)
  | error e =>
    obtain ⟨⟨d, n, kept, same⟩, -⟩ := leaveTo_refused value left
    rw [same]
    exact h.desk kept.unwound kept.exhausted

/-- Signals are obeyed before the end of the input only. -/
instance carriesLatest_obeyAt (depth : Nat) (o : Outcome) :
    Stays (Preserves CarriesLatest) (obeyAt depth o) := by
  refine ⟨fun s h => ?_⟩
  rw [obeyAt_apply]
  split
  · exact h
  · next reached =>
    have goesOn : s.desk.exhausted = false := by
      simp only [Bool.or_eq_true, not_or, Bool.not_eq_true] at reached
      exact reached.2
    exact obey_within (R := Preserves CarriesLatest) o
      (fun level value h => h.after_leaveTo goesOn level value) h

section Loops

variable {perform : Context → ShellM Reply} [∀ ctx, Stays (Preserves CarriesLatest) (perform ctx)]

theorem carriesLatest_note (f : Session) {e : Event} (other : ¬ e.IsResult) :
    Stays (Preserves CarriesLatest) (ShellM.note f e) := .modify fun _ h => h.note f _ other

instance carriesLatest_asks (f : Session) : Stays (Preserves CarriesLatest) (ShellM.note f .asks) :=
  carriesLatest_note f id

instance carriesLatest_turn (f : Session) : Stays (Preserves CarriesLatest) (turn perform f) := by
  have taken (g : Session) (line : String) :
      Stays (Preserves CarriesLatest) (ShellM.note g (.takes line)) :=
    carriesLatest_note g id
  have recorded (text : String) :
      Stays (Preserves CarriesLatest) (ShellM.modifyDesk (recordLine text)) := by
    refine .modify fun s h => ?_
    obtain ⟨history, files, same⟩ := recordLine_eq s.desk text
    rw [same]
    exact h.desk rfl rfl
  unfold turn
  refine .bind (carriesLatest_asks f) fun _ => .bind inferInstance fun r => ?_
  by_cases atEnd : r = .ended
  · subst atEnd
    -- between the value being dropped and the entry the journal is behind the desk
    exact ⟨fun s h => h.enter f .ends _ rfl (fun _ => rfl) (fun _ => rfl) (by simp)⟩
  · exact stays_stepLoop f atEnd

instance carriesLatest_startSession (receiver : Value) :
    Stays (Preserves CarriesLatest) (startSession perform receiver) :=
  stays_startSession_of (fun same h => h.restack same) (fun f => carriesLatest_note f id)
    (fun f _ result given h => h.close f result _ given) (fun _ => inferInstance) receiver

end Loops

/-! ## Every run -/

/-- What is carried and whether the input has ended are the same; nothing is said of what else is at
the desk. -/
def SameResult (d e : Desk) : Prop := e.unwound = d.unwound ∧ e.exhausted = d.exhausted

theorem Fresh.carriesLatest {s : State} (unread : Fresh s) (none : s.desk.unwound = .none) :
    CarriesLatest s where
  unwound := by rw [unread.journal, none]; rfl
  atEnd _ := none
  ended ends := by
    obtain ⟨e, member, -⟩ := unread.journal ▸ ends
    cases member
  closed := unread.journal ▸ Throughout.nil

/-- In a run, whatever its bodies do and however deep they nest, a session that is over has given
the value of the latest signal that was obeyed before, whether or not that signal left this session.
It has given none where no signal was obeyed before, and none where the input had ended. The same
holds of what the run itself gives. -/
theorem results_are_latest {bodies : Bodies}
    (built : ∀ back ctx, Built SameResult back (bodies back ctx)) (fuel lines : Nat) (f : Session)
    {s : State} (unread : Fresh s) (none : s.desk.unwound = .none) :
    let r := sessionLoop (bodies (reentry bodies fuel)) f lines s
    (∀ pre e post v, (endState r).stack.journal = pre ++ e :: post → e.event = .closes (some v) →
      v = carried pre ∧ ((∀ d ∈ pre, ¬ d.event.IsLeave) → v = .none) ∧
        (Exhausted pre → v = .none)) ∧
    ∀ v t, r = .ok v t → v = carried t.stack.journal ∧ (Exhausted t.stack.journal → v = .none) := by
  intro r
  have performed (ctx : Context) :
      Stays (Preserves CarriesLatest) (bodies (reentry bodies fuel) ctx) :=
    stays_reentry built (fun same h => h.desk same.1 same.2)
      (fun s f h => h.restack (s.stack.release_journal f))
      (fun _ _ => carriesLatest_startSession) fuel ctx
  have ends : CarriesLatest (endState r) :=
    (stays_sessionLoop (carriesLatest_turn f) lines).within s (unread.carriesLatest none)
  constructor
  · intro pre e post v split closes
    obtain ⟨latest, atEnd⟩ := ends.closed pre e post split v closes
    exact ⟨latest, fun quiet => latest.trans (carried_of_no_leave quiet), atEnd⟩
  · intro v t done
    rw [done] at ends
    have given : v = t.desk.unwound := sessionLoop_value done
    exact ⟨given.trans ends.unwound, fun atEnd => given.trans (ends.atEnd (ends.ended atEnd))⟩

/-! ## A session that is dropped -/

/-- The event is a signal that ends the loop of the session: it leaves it for a lower one, or it is
a signal of the session to its own level. -/
def Event.EndsLoopOf (f : Session) : Event → Prop
  | .leaves left level _ => f ∈ left ∧ ∃ n : Nat, Stack.levelOf? level = some (n : Int) ∧
      (n < f.level ∨ n = f.level ∧ left.getLast? = some f)
  | _ => False

/-- A session whose loop no signal has ended gives none. -/
def NoneUnlessLeft (journal : List Entry) : Prop :=
  ∀ pre e post v, journal = pre ++ e :: post → e.event = .closes (some v) →
    (∀ d ∈ pre, ¬ d.event.EndsLoopOf e.session) → v = .none

/-- It drops the top session. -/
def dropCommand : Command := { name := "drop", body := .steps [.release (-1)] }

/-- A session is left with a value, and the next one is dropped. -/
def dropping : State :=
  let s := fresh ["cd 1", "exit 7", "cd 2", "drop"]
  { s with desk := { s.desk with registry := s.desk.registry.register dropCommand } }

theorem dropping_unread : Fresh dropping := ⟨rfl, rfl, rfl, rfl, rfl, rfl⟩

def Event.closesWithSeven : Event → Bool
  | .closes (some (.int n)) => n == 7
  | _ => false

/-- Whether the event is no signal that leaves a session with the number. -/
def Event.spares (number : Nat) : Event → Bool
  | .leaves left _ _ => left.all fun g => g.id != number
  | _ => true

theorem Event.spares_loop {f : Session} {e : Event} (spares : e.spares f.id = true) :
    ¬ e.EndsLoopOf f := by
  intro ended
  cases e with
  | leaves left level value =>
    have other := List.all_eq_true.mp spares f ended.1
    simp at other
  | _ => exact ended

/-- The second session is closed with seven, and no signal has left it. -/
theorem dropped_closes : ∃ pre e post, (endState (run dropping)).stack.journal = pre ++ e :: post ∧
    e.event = .closes (some (.int 7)) ∧ ∀ d ∈ pre, ¬ d.event.EndsLoopOf e.session := by
  have facts : (((endState (run dropping)).stack.journal[25]?.any fun e =>
        e.event.closesWithSeven && e.session.id == 2) &&
      ((endState (run dropping)).stack.journal.take 25).all fun d => d.event.spares 2) = true := by
    decide +kernel
  simp only [Bool.and_eq_true] at facts
  obtain ⟨closes, spared⟩ := facts
  generalize (endState (run dropping)).stack.journal = journal at closes spared ⊢
  obtain ⟨e, found, closes⟩ := (Option.any_eq_true _ _).mp closes
  obtain ⟨inside, rfl⟩ := List.getElem?_eq_some_iff.mp found
  simp only [Bool.and_eq_true, beq_iff_eq] at closes
  refine ⟨journal.take 25, journal[25], journal.drop 26, ?_, ?_, fun d member => ?_⟩
  · rw [← List.drop_eq_getElem_cons inside, List.take_append_drop]
  · obtain ⟨seven, -⟩ := closes
    unfold Event.closesWithSeven at seven
    split at seven
    · next n event =>
      rw [event, beq_iff_eq.mp seven]
    · cases seven
  · exact Event.spares_loop (closes.2 ▸ List.all_eq_true.mp spared d member)

theorem run_apply (s : State) :
    run s = sessionLoop (Commands.bodies (reentry Commands.bodies nestingFuel)) s.stack.base
      lineFuel s := by
  unfold run Commands.perform performing
  rw [bind_apply, get_apply]

/-- The second session has given the value of the signal that left the first. -/
theorem dropped_gives_latest : ∃ pre e post v,
    (endState (run dropping)).stack.journal = pre ++ e :: post ∧ e.event = .closes (some v) ∧
      v = carried pre ∧ v = .int 7 := by
  obtain ⟨pre, e, post, split, closes, -⟩ := dropped_closes
  have built (back : Reentry) (ctx : Context) : Built SameResult back (Commands.bodies back ctx) :=
    (Commands.built_bodies back ctx).mono fun _ _ same => ⟨same.unwound, same.exhausted⟩
  have results := (results_are_latest built nestingFuel lineFuel dropping.stack.base
    dropping_unread rfl).1
  rw [run_apply] at split ⊢
  exact ⟨pre, e, post, .int 7, split, closes, (results pre e post _ split closes).1, rfl⟩

/-- A session that its body's line has dropped gives the value of the session before it. -/
theorem dropped_session_gives_old_value : Fresh dropping ∧ finished (run dropping) = true ∧
    ¬ NoneUnlessLeft (endState (run dropping)).stack.journal := by
  refine ⟨dropping_unread, by decide +kernel, fun noneUnlessLeft => ?_⟩
  obtain ⟨pre, e, post, split, closes, spared⟩ := dropped_closes
  cases noneUnlessLeft pre e post _ split closes spared

end NestShell.Shell

import NestShell.Proofs.Shell.Descent
import NestShell.Proofs.Shell.Ledger

/-!
# The lines that wait

All sessions share the lines that wait to be joined and the texts that wait to be completed. While
the loop of a session runs, what waits is what the journal tells of it; and where no session was
started or closed while something waited, the running loop has read it all.
-/

namespace NestShell.Shell

open NestShell.Code

variable {f : Session} {s t : State}

/-- What waits at the desk is what the journal tells; `f` is the session whose loop runs. -/
structure Tracks (f : Session) (s : State) : Prop where
  begun : s.desk.continuation = (Ledger.of s.stack.journal).begun.map Read.begun
  reader : (Ledger.of s.stack.journal).calm = true →
    ∀ r ∈ (Ledger.of s.stack.journal).begun, r.reader = f
  pending : ∃ passages, passages <:+ (Ledger.of s.stack.journal).kept ∧
    passages.map Passage.text = s.desk.pending ∧
    ((Ledger.of s.stack.journal).calm = true → ∀ p ∈ passages, p.ReadBy f)
  accounted : Accounted s.stack.journal

namespace Tracks

/-- What waits is the same, or the texts that waited were given up. -/
theorem of_ledger (h : Tracks f s) (same : Ledger.of t.stack.journal = Ledger.of s.stack.journal)
    (continuation : t.desk.continuation = s.desk.continuation)
    (pending : t.desk.pending = s.desk.pending ∨ t.desk.pending = [])
    (accounted : Accounted t.stack.journal) : Tracks f t := by
  refine ⟨?_, ?_, ?_, accounted⟩
  · rw [continuation, same]
    exact h.begun
  · rw [same]
    exact h.reader
  · rw [same]
    rcases pending with kept | cleared
    · rw [kept]
      exact h.pending
    · exact ⟨[], List.nil_suffix, cleared.symm, nofun⟩

/-- Other work at the desk and cuts of the stack. -/
theorem of_same (h : Tracks f s) (journal : t.stack.journal = s.stack.journal)
    (continuation : t.desk.continuation = s.desk.continuation)
    (pending : t.desk.pending = s.desk.pending ∨ t.desk.pending = []) : Tracks f t :=
  h.of_ledger (congrArg Ledger.of journal) continuation pending (journal ▸ h.accounted)

theorem desk (h : Tracks f s) {d : Desk} (same : Undisturbed s.desk d) :
    Tracks f { s with desk := d } := h.of_same rfl same.continuation same.pending

/-- An entry that concerns no lines. -/
theorem note (h : Tracks f s) (g : Session) {e : Event} (n : Nat) (other : ¬ e.Concerns) :
    Tracks f { s with stack := s.stack.note g e n } := by
  refine h.of_ledger ?_ rfl (.inl rfl) (h.accounted.note (Entry.accords_other other _))
  rw [Stack.note_journal, Ledger.of_append_singleton]
  exact Ledger.enter_other _ other

/-- An entry that tells whether the journal is calm: it is if nothing waits, and otherwise only if
it was so and the same loop goes on. -/
theorem calmed (h : Tracks f s) (g f' : Session) (e : Event) (calm : Bool)
    (same : Ledger.of (s.stack.note g e s.desk.waiting).journal =
      { Ledger.of s.stack.journal with calm := calm })
    (known : calm = true →
      (Ledger.of s.stack.journal).calm = true ∧ f' = f ∨ s.desk.waiting = 0)
    (accords : Entry.Accords ⟨g, e, s.stack.sessions, s.desk.waiting⟩ (Ledger.of s.stack.journal)) :
    Tracks f' { s with stack := s.stack.note g e s.desk.waiting } := by
  obtain ⟨passages, suffix, texts, own⟩ := h.pending
  have none (zero : s.desk.waiting = 0) :
      (Ledger.of s.stack.journal).begun = [] ∧ passages = [] := by
    unfold Desk.waiting at zero
    have pending := List.eq_nil_of_length_eq_zero (show s.desk.pending.length = 0 by omega)
    have continuation := List.eq_nil_of_length_eq_zero (show s.desk.continuation.length = 0 by omega)
    exact ⟨List.map_eq_nil_iff.mp (h.begun.symm.trans continuation),
      List.map_eq_nil_iff.mp (texts.trans pending)⟩
  refine ⟨?_, ?_, ⟨passages, ?_, texts, ?_⟩, h.accounted.note accords⟩
  · rw [same]
    exact h.begun
  · rw [same]
    intro calm r member
    rcases known calm with ⟨before, rfl⟩ | zero
    · exact h.reader before r member
    · rw [(none zero).1] at member
      exact absurd member List.not_mem_nil
  · rw [same]
    exact suffix
  · rw [same]
    intro calm p member
    rcases known calm with ⟨before, rfl⟩ | zero
    · exact own before p member
    · rw [(none zero).2] at member
      exact absurd member List.not_mem_nil

/-- When a session is started or closed, either nothing waits or the journal is not calm. -/
theorem edge (h : Tracks f s) {e : Event} (g : Session)
    (edge : e = .opens ∨ ∃ result, e = .closes result) (f' : Session) :
    Tracks f' { s with stack := s.stack.note g e s.desk.waiting } := by
  refine h.calmed g f' e (s.desk.waiting == 0) ?_ (fun zero => .inr (eq_of_beq zero)) ?_
  · rw [Stack.note_journal, Ledger.of_append_singleton]
    rcases edge with rfl | ⟨result, rfl⟩ <;> rfl
  · rcases edge with rfl | ⟨result, rfl⟩ <;> trivial

/-- When a loop asks for a line and nothing waits, the journal is calm again. -/
theorem asks (h : Tracks f s) : Tracks f { s with stack := s.stack.note f .asks s.desk.waiting } := by
  refine h.calmed f f .asks ((Ledger.of s.stack.journal).calm || s.desk.waiting == 0) ?_ ?_ trivial
  · rw [Stack.note_journal, Ledger.of_append_singleton]
    rfl
  · intro calm
    rcases Bool.or_eq_true_iff.mp calm with before | zero
    · exact .inl ⟨before, rfl⟩
    · exact .inr (eq_of_beq zero)

/-- An interrupted loop forgets what waits. -/
theorem interrupted (h : Tracks f s) (g : Session) (n : Nat)
    (stack : t.stack = s.stack.note g .interrupted n) (continuation : t.desk.continuation = [])
    (pending : t.desk.pending = []) : Tracks f t := by
  have journal : t.stack.journal = s.stack.journal ++ [⟨g, .interrupted, s.stack.sessions, n⟩] := by
    rw [stack, Stack.note_journal]
  have begun : (Ledger.of t.stack.journal).begun = [] := by
    rw [journal, Ledger.of_append_singleton]
    rfl
  refine ⟨?_, fun _ r member => ?_, ⟨[], List.nil_suffix, pending.symm, nofun⟩, ?_⟩
  · rw [continuation, begun]
    rfl
  · rw [begun] at member
    exact absurd member List.not_mem_nil
  · rw [journal]
    exact h.accounted.note trivial

/-- A line that waits for the next one. -/
theorem begins (h : Tracks f s) {line : String} (more : continues line = true) :
    Tracks f (taken f s line) := by
  have same : Ledger.of (taken f s line).stack.journal = { Ledger.of s.stack.journal with
      begun := (Ledger.of s.stack.journal).begun ++ [⟨f, line⟩] } := by
    rw [taken_journal, Ledger.of_append_singleton, Ledger.enter_continues _ _ _ _ more]
  have desk : (taken f s line).desk = { s.desk with
      continuation := s.desk.continuation ++ [Read.begun ⟨f, line⟩] } := by
    rw [taken_desk, joinLine_continues s.desk more f]
  refine ⟨?_, ?_, ?_, ?_⟩
  · rw [same, desk]
    dsimp only
    rw [h.begun, List.map_append]
    rfl
  · rw [same]
    intro calm r member
    rcases List.mem_append.mp member with old | new
    · exact h.reader calm r old
    · rw [List.mem_singleton.mp new]
  · rw [same, desk]
    exact h.pending
  · rw [taken_journal]
    exact h.accounted.note trivial

/-- A line that completes a text. -/
theorem completes (h : Tracks f s) {line : String} (last : continues line = false) :
    Tracks f (taken f s line) ∧ ∃ text, (joinLine s.desk line).2 = some text ∧
      (Ledger.of (taken f s line).stack.journal).Completes f text := by
  let p : Passage := ⟨(Ledger.of s.stack.journal).begun, ⟨f, line⟩⟩
  have joins := joinLine_completes s.desk last p h.begun rfl
  have same : Ledger.of (taken f s line).stack.journal =
      { Ledger.of s.stack.journal with begun := [], latest := some p } := by
    rw [taken_journal, Ledger.of_append_singleton, Ledger.enter_completes _ _ _ _ last]
  have desk : (taken f s line).desk = { s.desk with continuation := [] } := by
    rw [taken_desk, joins]
  refine ⟨⟨?_, ?_, ?_, ?_⟩, p.joined, by rw [joins], p, by rw [same], rfl, rfl, ?_⟩
  · rw [same, desk]
    rfl
  · rw [same]
    exact nofun
  · rw [same, desk]
    exact h.pending
  · rw [taken_journal]
    exact h.accounted.note trivial
  · rw [same]
    intro calm r member
    rcases List.mem_append.mp member with old | new
    · exact h.reader calm r old
    · rw [List.mem_singleton.mp new]

/-- A line that is taken waits for the next one or completes a text. -/
theorem taken (h : Tracks f s) (line : String) : Tracks f (taken f s line) ∧
    ∀ text, (joinLine s.desk line).2 = some text →
      (Ledger.of (Shell.taken f s line).stack.journal).Completes f text := by
  cases more : continues line with
  | true =>
    refine ⟨h.begins more, fun text complete => ?_⟩
    rw [joinLine_continues s.desk more f] at complete
    cases complete
  | false =>
    obtain ⟨tracks, text, known, completes⟩ := h.completes more
    refine ⟨tracks, fun text' complete => ?_⟩
    cases known.symm.trans complete
    exact completes

/-- Handing on a text changes nothing of what waits. -/
theorem submitted {text : String} (h : Tracks f s)
    (latest : (Ledger.of s.stack.journal).Completes f text) : Tracks f (submitted f s text) ∧
      (Ledger.of (Shell.submitted f s text).stack.journal).Completes f text := by
  obtain ⟨history, files, recorded⟩ := recordLine_eq s.desk text
  have desk : (Shell.submitted f s text).desk = { s.desk with history := history, files := files } :=
    recorded
  have journal := submitted_journal f s text
  have same : Ledger.of (Shell.submitted f s text).stack.journal = Ledger.of s.stack.journal := by
    rw [journal, Ledger.of_append_singleton]
    rfl
  refine ⟨h.of_ledger same (by rw [desk]) (.inl (by rw [desk])) ?_, same ▸ latest⟩
  rw [journal]
  exact h.accounted.note latest

/-- A text that joins those that wait. -/
theorem keptWith (h : Tracks f s) {p : Passage}
    (latest : (Ledger.of s.stack.journal).latest = some p) (last : p.last.reader = f)
    (read : (Ledger.of s.stack.journal).calm = true → p.ReadBy f) :
    Tracks f (keptWith s p.text) ∧
      (Ledger.of (Shell.keptWith s p.text).stack.journal).Draws f
        (Shell.keptWith s p.text).desk.pending := by
  obtain ⟨passages, ⟨more, whole⟩, texts, own⟩ := h.pending
  have journal := keptWith_journal s p.text
  have same : Ledger.of (Shell.keptWith s p.text).stack.journal =
      { Ledger.of s.stack.journal with kept := (Ledger.of s.stack.journal).kept ++ [p] } := by
    rw [journal, Ledger.of_append_singleton, Ledger.enter_keeps _ _ _ _ latest]
  have suffix : passages ++ [p] <:+ (Ledger.of s.stack.journal).kept ++ [p] :=
    ⟨more, by rw [← whole, List.append_assoc]⟩
  have texts : (passages ++ [p]).map Passage.text = (Shell.keptWith s p.text).desk.pending := by
    rw [List.map_append, texts]
    rfl
  have own (calm : (Ledger.of s.stack.journal).calm = true) : ∀ q ∈ passages ++ [p], q.ReadBy f := by
    intro q member
    rcases List.mem_append.mp member with old | new
    · exact own calm q old
    · rw [List.mem_singleton.mp new]
      exact read calm
  rw [same]
  refine ⟨⟨?_, ?_, ?_, ?_⟩, passages ++ [p], suffix, texts, ⟨p, List.getLast?_concat, last⟩, own⟩
  · rw [same]
    exact h.begun
  · rw [same]
    exact h.reader
  · rw [same]
    exact ⟨passages ++ [p], suffix, texts, own⟩
  · rw [journal]
    exact h.accounted.note trivial

/-- The texts that wait are evaluated. -/
theorem evaluating (h : Tracks f s) (top : s.stack.top = f)
    (drawn : (Ledger.of s.stack.journal).Draws f s.desk.pending) : Tracks f (evaluating s) := by
  have journal := evaluating_journal s
  have same : Ledger.of (Shell.evaluating s).stack.journal = { Ledger.of s.stack.journal with
      kept := []
      calm := (Ledger.of s.stack.journal).calm || (Ledger.of s.stack.journal).begun.isEmpty } := by
    rw [journal, Ledger.of_append_singleton]
    rfl
  refine ⟨?_, ?_, ⟨[], List.nil_suffix, rfl, nofun⟩, ?_⟩
  · rw [same]
    exact h.begun
  · rw [same]
    intro calm r member
    rcases Bool.or_eq_true_iff.mp calm with before | none
    · exact h.reader before r member
    · rw [List.isEmpty_iff.mp none] at member
      exact absurd member List.not_mem_nil
  · rw [journal]
    refine h.accounted.note ?_
    rw [top]
    exact drawn

end Tracks

/-! ## Lines -/

/-- Whichever session's loop runs, what waits stays what the journal tells. -/
def Keeping (s t : State) : Prop := ∀ f, Tracks f s → Tracks f t

theorem Event.IsAside.unconcerned {e : Event} (aside : e.IsAside) : ¬ e.Concerns := by
  cases e <;> first | exact id | cases aside

instance : Indifferent Keeping where
  refl _ _ := id
  trans _ _ _ first second f := second f ∘ first f
  desk same _ h := h.desk same
  text _ _ _ h := h.of_same rfl rfl (.inl rfl)
  aside _ g _ n aside _ h := h.note g n aside.unconcerned

theorem keeping_note (g : Session) {e : Event} (other : ¬ e.Concerns) :
    Stays Keeping (ShellM.note g e) := .modify fun _ _ h => h.note g _ other

instance keeping_leaveTo (level value : Value) : Stays Keeping (leaveTo level value) := by
  refine stays_leaveTo_of fun s k left f h => ?_
  have cut : Tracks f ⟨k, { s.desk with unwound := value }⟩ :=
    h.of_same (s.stack.breakout_journal left) rfl (.inl rfl)
  exact cut.note s.stack.top s.desk.waiting id

/-- The text that no command has is the latest one. -/
theorem tracks_handleUnmatched {text : String} (h : Tracks f s) (top : s.stack.top = f)
    (latest : (Ledger.of s.stack.journal).Completes f text) :
    Tracks f (endState (handleUnmatched (Text.trimEndOf ['\r', '\n'] text) s)) := by
  obtain ⟨p, latest, rfl, last, read⟩ := latest
  change Tracks f (endState (handleUnmatched p.text s))
  cases evaluates : s.desk.evalUnmatched with
  | true =>
    obtain ⟨tracks, drawn⟩ := h.keptWith latest last read
    rw [handleUnmatched_apply s p.text evaluates]
    split
    · have shown (source : String) : Stays Keeping (evaluation source) := inferInstance
      exact (shown _).within _ f (tracks.evaluating top drawn)
    · exact tracks
  | false =>
    have told : Stays Keeping (do
        ShellM.ofDesk (DeskM.puts ("No such command: " ++ (Text.splitFirst p.text).1))
        setStatus 1 : ShellM Unit) := inferInstance
    rw [handleUnmatched_unwilling s _ evaluates]
    exact told.within s f h

section Handling

variable {perform : Context → ShellM Reply} [∀ ctx, Stays Keeping (perform ctx)]

instance : DeskClosed (Preserves (Tracks f)) where
  desk same h := h.desk same

/-- Handling the latest text in the session on top, whose loop read it. -/
theorem tracks_handle {text : String} (h : Tracks f s) (top : s.stack.top = f)
    (latest : (Ledger.of s.stack.journal).Completes f text) :
    Tracks f (endState (handle perform text s)) := by
  have tracks {α : Type} {p : ShellM α} (keeping : Stays Keeping p) :
      Stays (Preserves (Tracks f)) p := keeping.mono fun _ _ keeping => keeping f
  have followed (ctx : Context) (remainder : String) :
      Stays (Preserves (Tracks f)) (runBody perform ctx remainder) := tracks inferInstance
  have shown (g : Session) (v : Value) :
      Stays (Preserves (Tracks f)) (ShellM.note g (.shows v)) := tracks inferInstance
  have left (level value : Value) : Stays (Preserves (Tracks f)) (leaveTo level value) :=
    tracks inferInstance
  have handled : Preserves (Tracks f) s (endState (handle perform text s)) :=
    handle_within fun _ tracked => tracks_handleUnmatched tracked top latest
  exact handled h

theorem tracks_handleText {text : String} (h : Tracks f s) (top : s.stack.top = f)
    (latest : (Ledger.of s.stack.journal).Completes f text) :
    Tracks f (endState (handleText perform f text s)) := by
  have handled : Preserves (Tracks f) s (endState (handle perform text s)) :=
    fun tracked => tracks_handle tracked top latest
  exact handleText_within handled ⟨fun _ tracked => tracked.interrupted f _ rfl rfl rfl⟩ h

theorem tracks_stepLoop {r : Reading} (h : Tracks f s) (top : s.stack.top = f) :
    Tracks f (endState (stepLoop perform f r s)) := by
  cases r with
  | ended =>
    have atEnd : Stays Keeping (stepLoop perform f .ended) :=
      stays_ended f (fun _ _ h => h.of_same rfl rfl (.inl rfl)) (keeping_note f id)
    exact atEnd.within s f h
  | interrupted => exact h.interrupted f _ rfl rfl rfl
  | line line =>
    obtain ⟨tracked, completes⟩ := h.taken line
    rw [stepLoop, bind_apply, takeLine_apply]
    cases complete : (joinLine s.desk line).2 with
    | none => exact tracked
    | some text =>
      dsimp only
      by_cases blank : (Text.isAllBlank text && s.desk.pending.isEmpty) = true
      · rw [if_pos blank]
        exact tracked
      · rw [if_neg blank]
        obtain ⟨tracked, latest⟩ := tracked.submitted (completes text complete)
        exact tracks_handleText tracked top latest

/-- A turn of the loop of the session on top. -/
theorem tracks_turn (h : Tracks f s) (top : s.stack.top = f) :
    Tracks f (endState (turn perform f s)) := by
  have asked := h.asks
  have read : Stays Keeping readNext := inferInstance
  have looked : Stays SameSessions readNext := inferInstance
  rw [turn_apply, bind_apply]
  cases reading : readNext { s with stack := s.stack.note f .asks s.desk.waiting } with
  | error e t => exact read.of_error reading f asked
  | ok r t =>
    have same := (looked.of_ok reading).1
    have top' : t.stack.top = f := t.stack.top_of_last (by
      rw [same, Stack.note_sessions, s.stack.getLast?_sessions, top])
    exact tracks_stepLoop (read.of_ok reading f asked) top'

/-- The loop of a session that is on top or over. -/
theorem tracks_sessionLoop [∀ ctx, Stays Descends (perform ctx)] {lower : List Session}
    (level : lower.length = f.level) (fuel : Nat) (below : s.stack.sessions <+: lower ++ [f])
    (h : Tracks f s) : Tracks f (endState (sessionLoop perform f fuel s)) := by
  induction fuel generalizing s with
  | zero =>
    rw [sessionLoop_zero]
    split
    · exact h
    · exact h.asks
  | succ fuel ih =>
    rw [sessionLoop_succ]
    split
    · exact h
    · next goesOn =>
      have inside : s.stack.contains f = true := by
        simp only [Bool.or_eq_true, Bool.not_eq_eq_eq_not, Bool.not_true, not_or,
          Bool.not_eq_false] at goesOn
        exact goesOn.1
      have whole := s.stack.eq_of_contains level below inside
      have top : s.stack.top = f := s.stack.top_of_last (by rw [whole, List.getLast?_concat])
      have tracked : Tracks f (endState (turn perform f s)) := tracks_turn h top
      have descended : Descends s (endState (turn perform f s)) := descends_turn level below inside
      cases turned : turn perform f s with
      | error e t =>
        rw [turned] at tracked
        exact tracked
      | ok goesOn t =>
        rw [turned] at tracked descended
        cases goesOn with
        | true => exact ih (descended.sessions.trans below) tracked
        | false => exact tracked

end Handling

/-! ## Every nesting -/

/-- What bodies do, and so sessions that are started. -/
structure Careful (s t : State) : Prop extends Descends s t where
  keeping : Keeping s t

instance : Indifferent Careful where
  refl s := ⟨.of_same rfl, fun _ => id⟩
  trans _ _ _ first second :=
    ⟨first.toDescends.trans second.toDescends, fun f => second.keeping f ∘ first.keeping f⟩
  desk same := ⟨.of_same rfl, fun _ h => h.desk same⟩
  text s text := ⟨.of_same rfl, Indifferent.text s text⟩
  aside s f e n aside := ⟨.note f e (fun asks => by subst asks; cases aside) _,
    fun _ h => h.note f n aside.unconcerned⟩

/-- The session that is opened has read all that waits, unless something waited before. -/
theorem tracks_openSession (h : Tracks f s) (receiver : Value) :
    match openSession receiver s with
    | .ok g t => Tracks g t
    | .error _ t => Tracks f t := by
  have inside : Stays Keeping (ShellM.ofDesk (DeskM.ofRun (s.stack.top.scope.child receiver))) :=
    inferInstance
  have shown : Stays Keeping (ShellM.ofDesk (DeskM.viewClip receiver)) := inferInstance
  unfold openSession
  rw [bind_apply, get_apply]
  dsimp only
  rw [bind_apply]
  cases made : ShellM.ofDesk (DeskM.ofRun (s.stack.top.scope.child receiver)) s with
  | error e t => exact inside.of_error made f h
  | ok scope t =>
    have tracked := inside.of_ok made f h
    dsimp only
    rw [bind_apply]
    cases labelled : ShellM.ofDesk (DeskM.viewClip receiver) t with
    | error e u => exact shown.of_error labelled f tracked
    | ok label u =>
      have tracked := shown.of_ok labelled f tracked
      let v : State := { u with stack := u.stack.push receiver scope label }
      have pushed : Tracks f v := tracked.of_same rfl rfl (.inl rfl)
      exact pushed.edge _ (.inl rfl) _

theorem keeping_startSession {perform : Context → ShellM Reply}
    [∀ ctx, Stays Descends (perform ctx)] [∀ ctx, Stays Keeping (perform ctx)]
    (receiver : Value) : Stays Keeping (startSession perform receiver) := by
  refine ⟨fun s f h => ?_⟩
  have tracked := tracks_openSession h receiver
  rw [startSession_apply]
  cases opened : openSession receiver s with
  | error e t =>
    rw [opened] at tracked
    exact tracked
  | ok g t =>
    rw [opened] at tracked
    obtain ⟨scope, label, rfl, pushed⟩ := openSession_ok opened
    have level : s.stack.sessions.length = (s.stack.next receiver scope label).level := rfl
    have below : t.stack.sessions <+: s.stack.sessions ++ [s.stack.next receiver scope label] := by
      rw [pushed]
      exact List.prefix_rfl
    have looped : Tracks _ (endState (sessionLoop perform _ lineFuel t)) :=
      tracks_sessionLoop level lineFuel below tracked
    have closed (result : Option Value) (u : State)
        (tracks : Tracks (s.stack.next receiver scope label) u) :
        Tracks f (close (s.stack.next receiver scope label) result u) := by
      let v : State := { u with stack := u.stack.release (s.stack.next receiver scope label) }
      have released : Tracks (s.stack.next receiver scope label) v :=
        tracks.of_same (u.stack.release_journal _) rfl (.inl rfl)
      exact released.edge _ (.inr ⟨result, rfl⟩) f
    dsimp only
    generalize sessionLoop perform _ lineFuel t = r at looped ⊢
    cases r with
    | ok v u => exact closed _ u looped
    | error e u => exact closed _ u looped

instance careful_startSession {perform : Context → ShellM Reply}
    [careful : ∀ ctx, Stays Careful (perform ctx)] (receiver : Value) :
    Stays Careful (startSession perform receiver) := by
  have descends (ctx : Context) : Stays Descends (perform ctx) :=
    (careful ctx).mono fun _ _ => Careful.toDescends
  have keeping (ctx : Context) : Stays Keeping (perform ctx) :=
    (careful ctx).mono fun _ _ => Careful.keeping
  exact ⟨fun s => ⟨(descends_startSession receiver).within s,
    (keeping_startSession receiver).within s⟩⟩

theorem careful_perform (ctx : Context) : Stays Careful (Commands.perform ctx) :=
  stays_reentry Commands.built_bodies DeskClosed.desk
    (fun s f => ⟨.release s f, fun _ h => h.of_same (s.stack.release_journal f) rfl (.inl rfl)⟩)
    (fun _ _ => careful_startSession) nestingFuel ctx

/-- In a run every text that a loop hands on and all texts that are evaluated are made up of lines
as the journal tells: the loop of the session in which that happens has read the last line. It has
read all lines if no session was started or closed while they waited. -/
theorem run_accounts (unread : Fresh s) : Accounted (endState (run s)).stack.journal := by
  have descends (ctx : Context) : Stays Descends (Commands.perform ctx) :=
    (careful_perform ctx).mono fun _ _ => Careful.toDescends
  have keeping (ctx : Context) : Stays Keeping (Commands.perform ctx) :=
    (careful_perform ctx).mono fun _ _ => Careful.keeping
  have none : Ledger.of s.stack.journal = {} := by
    rw [unread.journal]
    rfl
  have begins : Tracks s.stack.base s := by
    refine ⟨?_, ?_, ⟨[], List.nil_suffix, unread.pending.symm, nofun⟩, ?_⟩
    · rw [unread.continuation, none]
      rfl
    · rw [none]
      exact nofun
    · rw [unread.journal]
      exact fun pre e post split => absurd split.symm (by simp)
  have level : ([] : List Session).length = s.stack.base.level := unread.level.symm
  have below : s.stack.sessions <+: [] ++ [s.stack.base] := unread.sessions ▸ List.prefix_rfl
  have loop : Tracks s.stack.base (endState (sessionLoop Commands.perform s.stack.base lineFuel s)) :=
    tracks_sessionLoop level lineFuel below begins
  exact loop.accounted

/-- A text of two lines that one loop reads. -/
theorem two_lines_accounted : Fresh (fresh ["(1,", "2)"]) ∧
    Accounted (endState (run (fresh ["(1,", "2)"]))).stack.journal ∧
    ∃ pre e post texts, (endState (run (fresh ["(1,", "2)"]))).stack.journal = pre ++ e :: post ∧
      e.event = .evaluates texts ∧ texts.length = 2 ∧ (Ledger.of pre).calm = true := by
  refine ⟨fresh_unread _, run_accounts (fresh_unread _), ?_⟩
  have facts : ((endState (run (fresh ["(1,", "2)"]))).stack.journal[10]?.any fun e =>
      (match e.event with
      | .evaluates texts => texts.length == 2
      | _ => false) &&
      (Ledger.of ((endState (run (fresh ["(1,", "2)"]))).stack.journal.take 10)).calm) = true := by
    decide +kernel
  generalize (endState (run (fresh ["(1,", "2)"]))).stack.journal = journal at facts
  obtain ⟨e, found, facts⟩ := (Option.any_eq_true _ _).mp facts
  obtain ⟨inside, rfl⟩ := List.getElem?_eq_some_iff.mp found
  simp only [Bool.and_eq_true] at facts
  refine ⟨journal.take 10, journal[10], journal.drop 11, ?_⟩
  split at facts
  · next texts evaluates =>
    refine ⟨texts, ?_, evaluates, eq_of_beq facts.1, facts.2⟩
    rw [← List.drop_eq_getElem_cons inside, List.take_append_drop]
  · cases facts.1

/-- All lines of a text that is evaluated were read by the loop of the session in whose scope it is
evaluated. -/
def OwnLines (journal : List Entry) : Prop :=
  ∀ pre e post texts, journal = pre ++ e :: post → e.event = .evaluates texts →
    ∃ passages, passages <:+ (Ledger.of pre).kept ∧ passages.map Passage.text = texts ∧
      ∀ p ∈ passages, p.ReadBy e.session

/-- A session that is started while a line waits takes that line over. -/
theorem inherited_line_evaluated : Fresh (fresh ["(1,", "cd 5", "2)"]) ∧
    ¬ OwnLines (endState (run (fresh ["(1,", "cd 5", "2)"]))).stack.journal := by
  refine ⟨fresh_unread _, fun own => ?_⟩
  have facts : ((endState (run (fresh ["(1,", "cd 5", "2)"]))).stack.journal[16]?.any fun e =>
      match e.event with
      | .evaluates texts =>
        let kept := (Ledger.of ((endState (run (fresh ["(1,", "cd 5", "2)"]))).stack.journal.take 16)).kept
        kept.length == texts.length && kept.any fun p => p.reads.any (·.reader.id != e.session.id)
      | _ => false) = true := by decide +kernel
  generalize (endState (run (fresh ["(1,", "cd 5", "2)"]))).stack.journal = journal at facts own
  obtain ⟨e, found, facts⟩ := (Option.any_eq_true _ _).mp facts
  obtain ⟨inside, rfl⟩ := List.getElem?_eq_some_iff.mp found
  have split : journal = journal.take 16 ++ journal[16] :: journal.drop 17 := by
    rw [← List.drop_eq_getElem_cons inside, List.take_append_drop]
  split at facts
  · next texts evaluates =>
    simp only [Bool.and_eq_true, beq_iff_eq] at facts
    obtain ⟨count, strange⟩ := facts
    obtain ⟨passages, suffix, rfl, read⟩ := own _ _ _ texts split evaluates
    -- as many passages wait as are evaluated, so these are all of them
    obtain rfl := suffix.eq_of_length (by rw [count, List.length_map])
    obtain ⟨p, member, strange⟩ := List.any_eq_true.mp strange
    obtain ⟨r, line, other⟩ := List.any_eq_true.mp strange
    rw [read p member r line] at other
    exact absurd rfl (bne_iff_ne.mp other)
  · cases facts

end NestShell.Shell

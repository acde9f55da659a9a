import NestShell.Proofs.Commands.Bodies
import NestShell.Proofs.Shell.Descent
import NestShell.Proofs.Shell.Ledger

/-!
# No line is lost

The loops of all sessions take their lines one after another. Cut after each line that does not end
in a backslash, the lines give the texts that are handed on, and nothing else is handed on. A text
that no command has joins those that wait; they leave together, to be evaluated or given up, so at
the end each of them has left once or still waits. All of this is told by the journal alone, and it
is what the desk holds as long as no loop is interrupted.
-/

namespace NestShell.Shell

open NestShell.Code NestShell.Text

/-! ## Lines -/

/-- A line that a loop took, and how many lines and texts waited then. -/
structure Taking where
  read : Read
  waiting : Nat

/-- The lines of one text, and how many texts waited when the last of them was taken. -/
structure Piece extends Passage where
  waiting : Nat

/-- The text that is handed on. A blank one counts only where others wait. -/
def Piece.handedOn (p : Piece) : Option String :=
  if isAllBlank p.joined && p.waiting == 0 then none else some p.joined

/-- Cuts lines after each one that does not end in a backslash, and leaves those after the last
cut. -/
def cut (begun : List Read) : List Taking → List Piece × List Read
  | [] => ([], begun)
  | t :: rest =>
    if continues t.read.line then cut (begun ++ [t.read]) rest
    else (⟨⟨begun, t.read⟩, t.waiting⟩ :: (cut [] rest).1, (cut [] rest).2)

theorem cut_continues {begun : List Read} {t : Taking} (more : continues t.read.line = true)
    (takings : List Taking) :
    cut begun (takings ++ [t]) =
      ((cut begun takings).1, (cut begun takings).2 ++ [t.read]) := by
  induction takings generalizing begun with
  | nil => simp [cut, more]
  | cons u rest ih =>
    rw [List.cons_append, cut, cut]
    split
    · exact ih
    · rw [ih]

theorem cut_completes {begun : List Read} {t : Taking} (last : continues t.read.line = false)
    (takings : List Taking) :
    cut begun (takings ++ [t]) =
      ((cut begun takings).1 ++ [⟨⟨(cut begun takings).2, t.read⟩, t.waiting⟩], []) := by
  induction takings generalizing begun with
  | nil => simp [cut, last]
  | cons u rest ih =>
    rw [List.cons_append, cut, cut]
    split
    · exact ih
    · rw [ih]
      rfl

def Entry.taking? (e : Entry) : Option Taking :=
  match e.event with
  | .takes line => some ⟨⟨e.session, line⟩, e.waiting⟩
  | _ => none

def Entry.handedOn? (e : Entry) : Option String :=
  match e.event with
  | .submits text => some text
  | _ => none

/-- The lines that the loops took. -/
def takings (journal : List Entry) : List Taking := journal.filterMap Entry.taking?

/-- The texts that the loops handed on. -/
def handedOn (journal : List Entry) : List String := journal.filterMap Entry.handedOn?

def pieces (journal : List Entry) : List Piece := (cut [] (takings journal)).1

/-- The lines that wait for the next one. -/
def unfinished (journal : List Entry) : List Read := (cut [] (takings journal)).2

/-! ## Texts -/

/-- Whether a command gives up what waits to be evaluated. -/
def Event.clears : Event → Bool
  | .runs c _ =>
    match c.body with
    | .builtin .clearBuffer => true
    | _ => false
  | _ => false

/-- What a journal tells of the texts that no command had. -/
structure Tally where
  /-- The latest text that was handed on. -/
  latest : String := ""
  /-- All texts that no command had, without line ends. -/
  unmatched : List String := []
  /-- The texts that were evaluated or given up together. -/
  spent : List (List String) := []
  /-- The texts that wait. -/
  pending : List String := []

namespace Tally

def enter (t : Tally) (e : Entry) : Tally :=
  match e.event with
  | .submits text => { t with latest := text }
  | .keeps =>
    let line := trimEndOf ['\r', '\n'] t.latest
    { t with unmatched := t.unmatched ++ [line], pending := t.pending ++ [line] }
  | .evaluates texts => { t with spent := t.spent ++ [texts], pending := [] }
  | event => if event.clears then { t with spent := t.spent ++ [t.pending], pending := [] } else t

def of (journal : List Entry) : Tally := journal.foldl enter {}

theorem of_append_singleton (journal : List Entry) (e : Entry) :
    of (journal ++ [e]) = (of journal).enter e := by
  unfold of
  rw [List.foldl_append]
  rfl

end Tally

/-- The number of texts and lines that wait. -/
def waits (journal : List Entry) : Nat :=
  (Tally.of journal).pending.length + (unfinished journal).length

/-- Texts that wait do so because they are not complete. -/
def Incomplete (texts : List String) : Prop :=
  texts = [] ∨ isComplete ("\n".intercalate texts) = false

/-- An entry counts what waits, where it gives something up what waits before. All texts that wait
are evaluated together, and where a loop has a prompt they are not complete. -/
structure Entry.Tells (before : List Entry) (e : Entry) : Prop where
  waiting : e.waiting = waits (if e.event.clears then before else before ++ [e])
  evaluates : ∀ texts, e.event = .evaluates texts → texts = (Tally.of before).pending
  prompts : ∀ text, e.event = .prompts text → Incomplete (Tally.of before).pending

/-- No loop was interrupted. -/
def Uninterrupted (journal : List Entry) : Prop := ∀ e ∈ journal, e.event ≠ .interrupted

/-- The texts that were handed on are the pieces into which the lines are cut, and those that no
command had are the texts that were evaluated or given up and those that wait. -/
structure Conserved (journal : List Entry) (pending : List String) : Prop where
  handed : handedOn journal = (pieces journal).filterMap Piece.handedOn
  unmatched : (Tally.of journal).unmatched = (Tally.of journal).spent.flatten ++ pending
  tells : Throughout (fun before e => e.Tells before) journal

/-! ## What the desk holds -/

/-- The desk holds what the journal tells. -/
structure Holds (journal : List Entry) (d : Desk) : Prop where
  begun : d.continuation = (unfinished journal).map Read.begun
  pending : d.pending = (Tally.of journal).pending
  unmatched : (Tally.of journal).unmatched = (Tally.of journal).spent.flatten ++ d.pending
  tells : Throughout (fun before e => e.Tells before) journal
  evaluates : d.evalUnmatched = true

variable {j : List Entry} {d d' : Desk} {f : Session} {sessions : List Session}

theorem Holds.waiting (h : Holds j d) : d.waiting = waits j := by
  unfold Desk.waiting waits
  rw [h.pending, h.begun, List.length_map]

/-- Work at the desk that leaves alone what waits. -/
theorem Holds.desk (h : Holds j d) (continuation : d'.continuation = d.continuation)
    (pending : d'.pending = d.pending) (evaluates : d'.evalUnmatched = d.evalUnmatched) :
    Holds j d' where
  begun := continuation.trans h.begun
  pending := pending.trans h.pending
  unmatched := by
    rw [pending]
    exact h.unmatched
  tells := h.tells
  evaluates := evaluates.trans h.evaluates

/-! ### Lines that are taken -/

section Takes

variable {line : String} {n : Nat}

theorem takings_takes : takings (j ++ [⟨f, .takes line, sessions, n⟩]) =
    takings j ++ [⟨⟨f, line⟩, n⟩] := by
  unfold takings
  rw [List.filterMap_append]
  rfl

theorem handedOn_takes : handedOn (j ++ [⟨f, .takes line, sessions, n⟩]) = handedOn j := by
  unfold handedOn
  rw [List.filterMap_append]
  exact List.append_nil _

theorem handedOn_submits {text : String} :
    handedOn (j ++ [⟨f, .submits text, sessions, n⟩]) = handedOn j ++ [text] := by
  unfold handedOn
  rw [List.filterMap_append]
  rfl

theorem tally_takes : Tally.of (j ++ [⟨f, .takes line, sessions, n⟩]) = Tally.of j :=
  Tally.of_append_singleton j _

theorem cut_takes_more (more : continues line = true) :
    pieces (j ++ [⟨f, .takes line, sessions, n⟩]) = pieces j ∧
      unfinished (j ++ [⟨f, .takes line, sessions, n⟩]) = unfinished j ++ [⟨f, line⟩] := by
  unfold pieces unfinished
  rw [takings_takes, cut_continues (t := ⟨⟨f, line⟩, n⟩) more]
  exact ⟨rfl, rfl⟩

theorem cut_takes_last (last : continues line = false) :
    pieces (j ++ [⟨f, .takes line, sessions, n⟩]) =
        pieces j ++ [⟨⟨unfinished j, ⟨f, line⟩⟩, n⟩] ∧
      unfinished (j ++ [⟨f, .takes line, sessions, n⟩]) = [] := by
  unfold pieces unfinished
  rw [takings_takes, cut_completes (t := ⟨⟨f, line⟩, n⟩) last]
  exact ⟨rfl, rfl⟩

variable (f sessions) in
theorem Holds.takes (h : Holds j d) (line : String) :
    Holds (j ++ [⟨f, .takes line, sessions, (joinLine d line).1.waiting⟩]) (joinLine d line).1 := by
  obtain ⟨texts, desk⟩ := joinLine_eq d line
  have begun : (joinLine d line).1.continuation =
      (unfinished (j ++ [⟨f, .takes line, sessions, (joinLine d line).1.waiting⟩])).map
        Read.begun := by
    cases more : continues line with
    | true =>
      rw [(cut_takes_more more).2, joinLine_continues d more f, h.begun, List.map_append]
      rfl
    | false =>
      rw [(cut_takes_last more).2, joinLine_completes d more ⟨unfinished j, ⟨f, line⟩⟩ h.begun rfl]
      rfl
  have pending : (joinLine d line).1.pending = d.pending := by rw [desk]
  refine ⟨begun, ?_, ?_, h.tells.note ⟨?_, fun _ other => ?_, fun _ other => ?_⟩, ?_⟩
  · rw [pending, tally_takes]
    exact h.pending
  · rw [pending, tally_takes]
    exact h.unmatched
  · change (joinLine d line).1.waiting = waits (j ++ _)
    unfold waits
    rw [tally_takes, ← h.pending, ← pending, ← List.length_map (f := Read.begun), ← begun]
    rfl
  · cases other
  · cases other
  · rw [desk]
    exact h.evaluates

variable (f sessions) in
/-- The piece that a line ends, which is handed on unless it is of no account. -/
theorem Holds.completes (h : Holds j d) (last : continues line = false) : ∃ p : Piece,
    pieces (j ++ [⟨f, .takes line, sessions, (joinLine d line).1.waiting⟩]) = pieces j ++ [p] ∧
      (joinLine d line).2 = some p.joined ∧
      p.handedOn = if isAllBlank p.joined && d.pending.isEmpty then none else some p.joined := by
  have joins := joinLine_completes d last ⟨unfinished j, ⟨f, line⟩⟩ h.begun rfl
  have count : (joinLine d line).1.waiting = d.pending.length := by
    rw [joins]
    rfl
  have none : (d.pending.length == 0) = d.pending.isEmpty := by cases d.pending <;> rfl
  refine ⟨_, (cut_takes_last last).1, congrArg Prod.snd joins, ?_⟩
  rw [count, ← none]
  rfl

end Takes

/-! ### Other entries -/

section Other

variable {e : Entry}

theorem takings_other (none : e.taking? = none) : takings (j ++ [e]) = takings j := by
  unfold takings
  rw [List.filterMap_append, List.filterMap_cons_none none, List.filterMap_nil, List.append_nil]

theorem pieces_other (none : e.taking? = none) : pieces (j ++ [e]) = pieces j := by
  unfold pieces
  rw [takings_other none]

theorem unfinished_other (none : e.taking? = none) : unfinished (j ++ [e]) = unfinished j := by
  unfold unfinished
  rw [takings_other none]

/-- An entry by which no line is taken and no text handed on. -/
theorem handed_other (noLine : e.taking? = none) (noText : e.handedOn? = none)
    (handed : handedOn j = (pieces j).filterMap Piece.handedOn) :
    handedOn (j ++ [e]) = (pieces (j ++ [e])).filterMap Piece.handedOn := by
  rw [pieces_other noLine, ← handed]
  unfold handedOn
  rw [List.filterMap_append, List.filterMap_cons_none noText, List.filterMap_nil, List.append_nil]

/-- An entry of no line. -/
theorem Holds.note (h : Holds j d) (noLine : e.taking? = none)
    (continuation : d'.continuation = d.continuation)
    (pending : d'.pending = ((Tally.of j).enter e).pending)
    (unmatched : ((Tally.of j).enter e).unmatched = ((Tally.of j).enter e).spent.flatten ++ d'.pending)
    (count : e.waiting = if e.event.clears then d.waiting else d'.waiting)
    (evaluated : ∀ texts, e.event = .evaluates texts → texts = d.pending)
    (prompted : ∀ text, e.event = .prompts text → Incomplete d.pending)
    (evaluates : d'.evalUnmatched = d.evalUnmatched) : Holds (j ++ [e]) d' := by
  have entered : Tally.of (j ++ [e]) = (Tally.of j).enter e := Tally.of_append_singleton j e
  have begun : d'.continuation = (unfinished (j ++ [e])).map Read.begun := by
    rw [unfinished_other noLine]
    exact continuation.trans h.begun
  refine ⟨begun, ?_, ?_, h.tells.note ⟨?_, ?_, ?_⟩, evaluates.trans h.evaluates⟩
  · rw [entered]
    exact pending
  · rw [entered]
    exact unmatched
  · rw [count]
    split
    · exact h.waiting
    · unfold waits Desk.waiting
      rw [entered, pending, begun, List.length_map]
  · rw [← h.pending]
    exact evaluated
  · rw [← h.pending]
    exact prompted

end Other

/-! ## Between lines -/

/-- The desk holds what the journal tells, what was read has been handed on, and no complete text
waits. -/
structure Balanced (journal : List Entry) (d : Desk) : Prop extends Holds journal d where
  handed : handedOn journal = (pieces journal).filterMap Piece.handedOn
  incomplete : Incomplete d.pending

/-- Entries that are about neither lines nor texts. -/
def Event.IsQuiet : Event → Prop
  | .takes _ | .interrupted | .submits _ | .keeps | .evaluates _ => False
  | event => event.clears = false

namespace Balanced

variable {e : Entry}

theorem conserved (h : Balanced j d) : Conserved j d.pending := ⟨h.handed, h.unmatched, h.tells⟩

theorem desk (h : Balanced j d) (continuation : d'.continuation = d.continuation)
    (pending : d'.pending = d.pending) (evaluates : d'.evalUnmatched = d.evalUnmatched) :
    Balanced j d' :=
  ⟨h.toHolds.desk continuation pending evaluates, h.handed, pending ▸ h.incomplete⟩

/-- An entry by which no line is taken and no text handed on. -/
theorem note (h : Balanced j d) (noLine : e.taking? = none) (noText : e.handedOn? = none)
    (holds : Holds (j ++ [e]) d') (incomplete : Incomplete d'.pending) : Balanced (j ++ [e]) d' :=
  ⟨holds, handed_other noLine noText h.handed, incomplete⟩

theorem quiet (h : Balanced j d) (quiet : e.event.IsQuiet) (count : e.waiting = d.waiting) :
    Balanced (j ++ [e]) d := by
  obtain ⟨f, event, sessions, n⟩ := e
  have facts : Entry.taking? ⟨f, event, sessions, n⟩ = none ∧
      Entry.handedOn? ⟨f, event, sessions, n⟩ = none ∧ event.clears = false ∧
      (∀ texts, event ≠ .evaluates texts) ∧
      ∀ t : Tally, t.enter ⟨f, event, sessions, n⟩ = t := by
    cases event with
    | runs c rest =>
      have other : (Event.runs c rest).clears = false := quiet
      exact ⟨rfl, rfl, other, nofun, fun t => if_neg (by rw [other]; decide)⟩
    | _ => first | exact ⟨rfl, rfl, rfl, nofun, fun _ => rfl⟩ | cases quiet
  obtain ⟨noLine, noText, other, silent, same⟩ := facts
  refine h.note noLine noText (h.toHolds.note noLine rfl ?_ ?_ ?_ ?_ ?_ rfl) h.incomplete
  · rw [same]
    exact h.pending
  · rw [same]
    exact h.unmatched
  · change n = if event.clears then _ else _
    rw [if_neg (by rw [other]; decide)]
    exact count
  · exact fun texts evaluates => absurd evaluates (silent texts)
  · exact fun _ _ => h.incomplete

variable (f sessions) in
/-- A line that completes no text, or one of no account. -/
theorem takes (h : Balanced j d) (line : String)
    (none : ∀ text, (joinLine d line).2 = some text →
      (isAllBlank text && d.pending.isEmpty) = true) :
    Balanced (j ++ [⟨f, .takes line, sessions, (joinLine d line).1.waiting⟩])
      (joinLine d line).1 := by
  obtain ⟨texts, desk⟩ := joinLine_eq d line
  refine ⟨h.toHolds.takes f sessions line, ?_, by rw [desk]; exact h.incomplete⟩
  rw [handedOn_takes, h.handed]
  cases more : continues line with
  | true => rw [(cut_takes_more more).1]
  | false =>
    obtain ⟨p, whole, joined, handed⟩ := h.completes f sessions more
    rw [none _ joined, if_pos rfl] at handed
    rw [whole, List.filterMap_append, List.filterMap_cons_none handed, List.filterMap_nil,
      List.append_nil]

variable (f sessions) in
/-- A line that completes a text that is handed on. -/
theorem submits (h : Balanced j d) {line text : String}
    (complete : (joinLine d line).2 = some text)
    (counts : (isAllBlank text && d.pending.isEmpty) = false)
    (continuation : d'.continuation = (joinLine d line).1.continuation)
    (pending : d'.pending = (joinLine d line).1.pending)
    (evaluates : d'.evalUnmatched = (joinLine d line).1.evalUnmatched) :
    Balanced (j ++ [⟨f, .takes line, sessions, (joinLine d line).1.waiting⟩] ++
      [⟨f, .submits text, sessions, d'.waiting⟩]) d' := by
  obtain ⟨texts, desk⟩ := joinLine_eq d line
  have same : (joinLine d line).1.pending = d.pending := by rw [desk]
  have taken := h.toHolds.takes f sessions line
  have unmatched := taken.unmatched
  rw [← pending] at unmatched
  have holds := taken.note (e := ⟨f, .submits text, sessions, d'.waiting⟩) rfl continuation
    (pending.trans taken.pending) unmatched rfl nofun nofun evaluates
  refine ⟨holds, ?_, by rw [pending, same]; exact h.incomplete⟩
  rw [handedOn_submits, handedOn_takes, h.handed,
    pieces_other (e := ⟨f, .submits text, sessions, d'.waiting⟩) rfl]
  cases more : continues line with
  | true =>
    rw [joinLine_continues d more f] at complete
    cases complete
  | false =>
    obtain ⟨p, cut, joined, handed⟩ := h.completes f sessions more
    cases joined.symm.trans complete
    rw [counts, if_neg Bool.false_ne_true] at handed
    rw [cut, List.filterMap_append, List.filterMap_cons_some handed, List.filterMap_nil]

end Balanced

/-! ## Texts that no command has -/

section Unmatched

variable {s : State} {text : String}

/-- A text that joins those that wait. -/
theorem Holds.keptWith (h : Holds s.stack.journal s.desk)
    (latest : (Tally.of s.stack.journal).latest = text) :
    Holds (keptWith s (trimEndOf ['\r', '\n'] text)).stack.journal
      (keptWith s (trimEndOf ['\r', '\n'] text)).desk := by
  refine h.note rfl rfl ?_ ?_ rfl nofun nofun rfl
  · change s.desk.pending ++ [_] = _ ++ [_]
    rw [h.pending, latest]
  · change (Tally.of s.stack.journal).unmatched ++ [_] =
      (Tally.of s.stack.journal).spent.flatten ++ (s.desk.pending ++ [_])
    rw [h.unmatched, latest, List.append_assoc]

/-- The texts that wait are evaluated. -/
theorem Holds.evaluating (h : Holds s.stack.journal s.desk) :
    Holds (evaluating s).stack.journal (evaluating s).desk := by
  refine h.note rfl rfl rfl ?_ rfl (fun texts evaluates => ?_) nofun rfl
  · change (Tally.of s.stack.journal).unmatched = (_ ++ [s.desk.pending]).flatten ++ []
    rw [h.unmatched, List.flatten_append]
    simp
  · cases evaluates
    rfl

/-- The texts that wait are given up. -/
theorem Balanced.clears (h : Balanced j d) {e : Entry} (clears : e.event.clears = true)
    (count : e.waiting = d.waiting) (continuation : d'.continuation = d.continuation)
    (pending : d'.pending = []) (evaluates : d'.evalUnmatched = d.evalUnmatched) :
    Balanced (j ++ [e]) d' := by
  obtain ⟨f, event, sessions, n⟩ := e
  have facts : Entry.taking? ⟨f, event, sessions, n⟩ = none ∧
      Entry.handedOn? ⟨f, event, sessions, n⟩ = none ∧
      (∀ texts, event ≠ .evaluates texts) ∧ (∀ text, event ≠ .prompts text) ∧
      ∀ t : Tally, t.enter ⟨f, event, sessions, n⟩ =
        { t with spent := t.spent ++ [t.pending], pending := [] } := by
    cases event with
    | runs c rest => exact ⟨rfl, rfl, nofun, nofun, fun t => if_pos clears⟩
    | _ => cases clears
  obtain ⟨noLine, noText, silent, unprompted, entered⟩ := facts
  refine h.note noLine noText (h.toHolds.note noLine continuation ?_ ?_ ?_ ?_ ?_ evaluates) (.inl pending)
  · rw [entered, pending]
  · rw [entered, pending, List.flatten_append, ← h.pending]
    simpa using h.unmatched
  · change n = if event.clears then _ else _
    rw [if_pos clears]
    exact count
  · exact fun texts evaluates => absurd evaluates (silent texts)
  · exact fun text prompts => absurd prompts (unprompted text)

end Unmatched

/-! ## Through a run -/

theorem Uninterrupted.of_append {more : List Entry} (h : Uninterrupted (j ++ more)) :
    Uninterrupted j := fun e member => h e (List.mem_append_left more member)

/-- As long as no loop is interrupted the desk holds what the journal tells. -/
def Sound (s : State) : Prop := Uninterrupted s.stack.journal → Balanced s.stack.journal s.desk

instance : ReadClosed (Preserves Sound) where
  reads same sound calm := (sound calm).desk same.continuation same.waits same.evalUnmatched

theorem sound_note (f : Session) {e : Event} (quiet : e.IsQuiet) :
    Stays (Preserves Sound) (ShellM.note f e) :=
  .modify fun _ sound calm => (sound calm.of_append).quiet quiet rfl

instance sound_shows (f : Session) (v : Value) :
    Stays (Preserves Sound) (ShellM.note f (.shows v)) := sound_note f rfl

instance sound_prompts (f : Session) (text : String) :
    Stays (Preserves Sound) (ShellM.note f (.prompts text)) := sound_note f rfl

theorem Sound.taken {s : State} {line : String} (sound : Sound s)
    (none : ∀ text, (joinLine s.desk line).2 = some text →
      (isAllBlank text && s.desk.pending.isEmpty) = true) : Sound (taken f s line) := by
  intro calm
  rw [taken_journal] at calm
  have balanced := (sound calm.of_append).takes f s.stack.sessions line none
  rwa [← taken_desk f s line, ← taken_journal] at balanced

theorem Sound.submitted {s : State} {line text : String} (sound : Sound s)
    (complete : (joinLine s.desk line).2 = some text)
    (counts : (isAllBlank text && s.desk.pending.isEmpty) = false) :
    Sound (submitted f (Shell.taken f s line) text) := by
  obtain ⟨history, files, recorded⟩ := recordLine_eq (joinLine s.desk line).1 text
  have desk : (Shell.submitted f (Shell.taken f s line) text).desk =
      { (joinLine s.desk line).1 with history := history, files := files } := by
    rw [submitted_desk, taken_desk, recorded]
  intro calm
  rw [submitted_journal, taken_journal] at calm
  have balanced := (sound calm.of_append.of_append).submits f s.stack.sessions
    complete counts
    (show (Shell.submitted f (Shell.taken f s line) text).desk.continuation = _ by rw [desk])
    (by rw [desk]) (by rw [desk])
  rw [← taken_desk f s line, ← taken_journal] at balanced
  have sessions : (Shell.taken f s line).stack.sessions = s.stack.sessions := rfl
  rw [submitted_journal, sessions]
  exact balanced

/-- After an interruption nothing is told any more. -/
theorem sound_interrupted (s : State) (f : Session) (n : Nat) (d : Desk) :
    Sound ⟨s.stack.note f .interrupted n, d⟩ :=
  fun calm => absurd rfl (calm _ (List.mem_append_right _ List.mem_cons_self))

instance sound_leaveTo (level value : Value) : Stays (Preserves Sound) (leaveTo level value) := by
  refine stays_leaveTo_of fun s k left sound => ?_
  have quiet : (Event.leaves s.stack.sessions level value).IsQuiet := rfl
  have same : k.journal = s.stack.journal := s.stack.breakout_journal left
  intro calm
  change Balanced (k.journal ++ [_]) { s.desk with unwound := value }
  change Uninterrupted (k.journal ++ [_]) at calm
  rw [same] at calm ⊢
  exact ((sound calm.of_append).quiet quiet rfl).desk rfl rfl rfl

/-- The text that no command has is the latest one. -/
theorem sound_handleUnmatched {s : State} {text : String} (sound : Sound s)
    (latest : (Tally.of s.stack.journal).latest = text) :
    Sound (endState (handleUnmatched (trimEndOf ['\r', '\n'] text) s)) := by
  cases evaluates : s.desk.evalUnmatched with
  | true =>
    rw [handleUnmatched_apply s _ evaluates]
    split
    · have shown (source : String) : Stays (Preserves Sound) (evaluation source) := inferInstance
      refine (shown _).within _ fun calm => ?_
      have balanced := sound calm.of_append.of_append
      have kept := balanced.toHolds.keptWith latest
      exact ⟨kept.evaluating, handed_other rfl rfl (handed_other rfl rfl balanced.handed), .inl rfl⟩
    · next more =>
      intro calm
      have balanced := sound calm.of_append
      exact balanced.note rfl rfl (balanced.toHolds.keptWith latest)
        (.inr (Bool.eq_false_iff.mpr more))
  | false =>
    have told : Stays (Preserves Sound) (do
        ShellM.ofDesk (DeskM.puts ("No such command: " ++
          (splitFirst (trimEndOf ['\r', '\n'] text)).1))
        setStatus 1 : ShellM Unit) := inferInstance
    rw [handleUnmatched_unwilling s _ evaluates]
    exact told.within s sound

/-! ## Loops -/

section Loops

variable {perform : Context → ShellM Reply}

/-- The body that gives up what waits does so at once. -/
theorem runBody_clears {ctx : Context} (back : Reentry) (remainder : String) (s : State)
    (clears : ctx.command.body = .builtin .clearBuffer) : ∃ signal d,
    runBody (Commands.bodies back) ctx remainder s =
      .ok signal ⟨s.stack.note ctx.stack.top (.runs ctx.command remainder) s.desk.waiting, d⟩ ∧
      d.continuation = s.desk.continuation ∧ d.pending = [] ∧
      d.evalUnmatched = s.desk.evalUnmatched := by
  have body : Commands.bodies back ctx = ShellM.ofDesk Commands.runClearBuffer := by
    unfold Commands.bodies
    rw [clears]
    rfl
  rw [runBody_apply, performIn_apply, body]
  exact ⟨_, _, rfl, rfl, rfl, rfl⟩

theorem clears_iff {c : Command} {rest : String} :
    (Event.runs c rest).clears = true ↔ c.body = .builtin .clearBuffer := by
  unfold Event.clears
  dsimp only
  split <;> simp_all

theorem sound_runBody (back : Reentry) (run : ∀ line, Stays (Preserves Sound) (back.run line))
    (start : ∀ receiver, Stays (Preserves Sound) (back.start receiver)) (ctx : Context)
    (remainder : String) :
    Stays (Preserves Sound) (runBody (Commands.bodies back) ctx remainder) := by
  by_cases clears : ctx.command.body = .builtin .clearBuffer
  · refine ⟨fun s sound => ?_⟩
    obtain ⟨signal, d, ran, continuation, pending, evaluates⟩ := runBody_clears back remainder s clears
    rw [ran]
    intro calm
    exact (sound calm.of_append).clears (clears_iff.mpr clears) rfl continuation pending evaluates
  · have quiet : (Event.runs ctx.command remainder).IsQuiet :=
      Bool.eq_false_iff.mpr (mt clears_iff.mp clears)
    have released (s : State) (f : Session) :
        Preserves Sound s { s with stack := s.stack.release f } := by
      intro sound calm
      rw [Stack.release_journal] at calm ⊢
      exact sound calm
    have body : Stays (Preserves Sound) (Commands.bodies back ctx) :=
      (Commands.built_bodies_reads back ctx clears).stays ReadClosed.reads released run start
    exact stays_runBody_of body (fun _ _ sound calm => (sound calm).desk rfl rfl rfl)
      (sound_note _ quiet)

section Turns

variable [∀ ctx remainder, Stays (Preserves Sound) (runBody perform ctx remainder)]

/-- Handling the latest text. -/
theorem sound_handleText {s : State} {text : String} (sound : Sound s)
    (latest : (Tally.of s.stack.journal).latest = text) :
    Sound (endState (handleText perform f text s)) := by
  have handled : Preserves Sound s (endState (handle perform text s)) :=
    handle_within fun _ sound => sound_handleUnmatched sound latest
  exact handleText_within handled ⟨fun s _ => sound_interrupted s f _ _⟩ sound

theorem sound_stepLoop (r : Reading) : Stays (Preserves Sound) (stepLoop perform f r) := by
  cases r with
  | ended =>
    exact stays_ended f (fun _ sound calm => (sound calm).desk rfl rfl rfl) (sound_note f rfl)
  | interrupted => exact ⟨fun s _ => sound_interrupted s f _ _⟩
  | line line =>
    refine ⟨fun s sound => ?_⟩
    rw [stepLoop, bind_apply, takeLine_apply]
    cases complete : (joinLine s.desk line).2 with
    | none =>
      refine sound.taken fun text other => ?_
      rw [complete] at other
      cases other
    | some text =>
      dsimp only
      by_cases blank : (isAllBlank text && s.desk.pending.isEmpty) = true
      · rw [if_pos blank]
        refine sound.taken fun other same => ?_
        cases complete.symm.trans same
        exact blank
      · rw [if_neg blank]
        have latest : (Tally.of (submitted f (taken f s line) text).stack.journal).latest = text :=
          congrArg Tally.latest (Tally.of_append_singleton _ _)
        exact sound_handleText (sound.submitted complete (Bool.eq_false_iff.mpr blank)) latest

instance sound_asks (f : Session) : Stays (Preserves Sound) (ShellM.note f .asks) :=
  sound_note f rfl

theorem sound_turn (f : Session) : Stays (Preserves Sound) (turn perform f) := by
  have handled (r : Reading) : Stays (Preserves Sound) (stepLoop perform f r) := sound_stepLoop r
  unfold turn
  infer_instance

end Turns

/-- Every body with its line's command, however deep sessions nest in it. -/
theorem sound_perform (ctx : Context) (remainder : String) :
    Stays (Preserves Sound) (runBody Commands.perform ctx remainder) := by
  refine stays_runBody_reentry sound_runBody (fun perform _ receiver => ?_) nestingFuel ctx remainder
  have restacked {s : State} {k : Stack} (same : k.journal = s.stack.journal) :
      Preserves Sound s { s with stack := k } := by
    intro sound calm
    rw [same] at calm ⊢
    exact sound calm
  exact stays_startSession restacked (fun f => sound_note f rfl) (fun f _ => sound_note f rfl)
    sound_turn receiver

end Loops

/-! ## Texts that no command has, and others -/

/-- The first thing that happens is that a text is kept. -/
def KeepsNext (s t : State) : Prop :=
  ∃ e more, t.stack.journal = s.stack.journal ++ e :: more ∧ e.event = .keeps

/-- Nothing happens, or something else than that first. -/
def Otherwise (s t : State) : Prop :=
  ∃ new, t.stack.journal = s.stack.journal ++ new ∧
    ∀ e more, new = e :: more → e.event ≠ .keeps

namespace Otherwise

variable {s t u : State}

theorem of_same (same : t.stack.journal = s.stack.journal) : Otherwise s t :=
  ⟨[], by rw [same, List.append_nil], fun _ _ first => by cases first⟩

theorem note (s : State) (f : Session) {e : Event} (n : Nat) (other : e ≠ .keeps) :
    Otherwise s { s with stack := s.stack.note f e n } := by
  refine ⟨[⟨f, e, s.stack.sessions, n⟩], rfl, fun d more first => ?_⟩
  obtain ⟨rfl, -⟩ := List.cons.inj first
  exact other

theorem trans (first : Otherwise s t) (second : Otherwise t u) : Otherwise s u := by
  obtain ⟨new, journal, other⟩ := first
  obtain ⟨newer, journal', other'⟩ := second
  refine ⟨new ++ newer, by rw [journal', journal, List.append_assoc], fun e more first => ?_⟩
  cases new with
  | nil => exact other' e more first
  | cons d rest =>
    obtain ⟨rfl, -⟩ := List.cons.inj first
    exact other _ _ rfl

theorem not_keepsNext (h : Otherwise s t) : ¬ KeepsNext s t := by
  rintro ⟨e, more, journal, keeps⟩
  obtain ⟨new, journal', other⟩ := h
  exact other e more (List.append_cancel_left (journal'.symm.trans journal)) keeps

instance : DeskClosed Otherwise where
  refl _ := of_same rfl
  trans _ _ _ := trans
  desk _ := of_same rfl

instance (f : Session) (v : Value) : Stays Otherwise (ShellM.note f (.shows v)) :=
  .modify fun s => note s f _ nofun

instance (level value : Value) : Stays Otherwise (leaveTo level value) :=
  stays_leaveTo_of fun s k left =>
    (of_same (t := { s with stack := k }) (s.stack.breakout_journal left)).trans
      ((of_same rfl).trans (note ⟨k, { s.desk with unwound := value }⟩ _ _ nofun))

end Otherwise

variable {perform : Context → ShellM Reply}

/-- What happens in a body comes after the command of its line. -/
theorem otherwise_runBody [∀ ctx, Stays Descends (perform ctx)] (ctx : Context)
    (remainder : String) : Stays Otherwise (runBody perform ctx remainder) := by
  refine ⟨fun s => ?_⟩
  have ran : Stays Descends (performIn perform ctx) := inferInstance
  obtain ⟨new, journal, -⟩ := (ran.within (entered s ctx remainder)).watched
  rw [endState_runBody]
  refine ⟨⟨ctx.stack.top, .runs ctx.command remainder, s.stack.sessions, s.desk.waiting⟩ :: new, ?_, ?_⟩
  · exact journal.trans (List.append_assoc ..)
  · intro e more first
    obtain ⟨rfl, -⟩ := List.cons.inj first
    exact nofun

/-- Of the texts that are handled while the input goes on, exactly those that no command has are
kept. -/
theorem handle_keeps [∀ ctx, Stays Descends (perform ctx)] {s : State} {text : String}
    (evaluates : s.desk.evalUnmatched = true) (goesOn : s.desk.exhausted = false) :
    KeepsNext s (endState (handle perform text s)) ↔ s.desk.registry.match? text = none := by
  constructor
  · intro keeps
    cases found : s.desk.registry.match? text with
    | none => rfl
    | some m =>
      have followed (ctx : Context) (remainder : String) :
          Stays Otherwise (runBody perform ctx remainder) := otherwise_runBody ctx remainder
      refine absurd keeps (Otherwise.not_keepsNext (handle_within fun none => ?_))
      cases found.symm.trans none
  · intro none
    have first : KeepsNext s
        (endState (handleUnmatched (trimEndOf ['\r', '\n'] text) s.begun)) := by
      rw [handleUnmatched_apply s.begun _ evaluates]
      split
      · have evaluated (source : String) : Stays Descends (evaluation source) := inferInstance
        obtain ⟨new, later, -⟩ := ((evaluated _).within (evaluating (keptWith _ _))).watched
        rw [evaluating_journal, keptWith_journal, List.append_assoc, List.append_assoc,
          List.singleton_append] at later
        exact ⟨_, _, later, rfl⟩
      · exact ⟨_, [], keptWith_journal _ _, rfl⟩
    rw [handle_unmatched perform none, goesOn, if_neg Bool.false_ne_true, bind_apply]
    cases done : handleUnmatched (trimEndOf ['\r', '\n'] text) s.begun with
    | ok _ t => rwa [done] at first
    | error e t => rwa [done] at first

/-! ## A run -/

/-- In a run without interruptions the lines that the loops take are cut after each one that does
not end in a backslash. The pieces are handed on one after another, but for blank ones that come
while no text waits. The texts that no command has are those that were evaluated or given up and
those that wait at the end. Where a loop has a prompt, the texts that wait are not complete. -/
theorem run_conserves {s : State} (unread : Fresh s) (evaluates : s.desk.evalUnmatched = true)
    (calm : Uninterrupted (endState (run s)).stack.journal) :
    Conserved (endState (run s)).stack.journal (endState (run s)).desk.pending ∧
      ∀ u text, u.desk.evalUnmatched = true → u.desk.exhausted = false →
        (KeepsNext u (endState (handle Commands.perform text u)) ↔
          u.desk.registry.match? text = none) := by
  have descends (ctx : Context) : Stays Descends (Commands.perform ctx) :=
    descends_body (fun back ctx => (Commands.built_bodies back ctx).mono fun _ _ _ => trivial)
      nestingFuel ctx
  have begins : Balanced s.stack.journal s.desk := by
    rw [unread.journal]
    exact ⟨⟨unread.continuation, unread.pending, by rw [unread.pending]; rfl, .nil, evaluates⟩, rfl,
      .inl unread.pending⟩
  have bodies (ctx : Context) (remainder : String) :
      Stays (Preserves Sound) (runBody Commands.perform ctx remainder) := sound_perform ctx remainder
  have looped : Stays (Preserves Sound) (sessionLoop Commands.perform s.stack.base lineFuel) :=
    stays_sessionLoop (sound_turn s.stack.base) lineFuel
  have ends : Sound (endState (run s)) := looped.within s fun _ => begins
  exact ⟨(ends calm).conserved, fun u text => handle_keeps⟩

/-- Whether a loop is interrupted. -/
def Event.interrupts : Event → Bool
  | .interrupted => true
  | _ => false

/-- A line that is joined to the next one, a blank line, a text that is given up, and one that a
session takes over from the one below. -/
def mixedLines : List String := ["1 + \\", "2", "", "(1,", "!", "(3,", "cd 5", "4)"]

theorem mixed_lines_conserved : Fresh (fresh mixedLines) ∧
    (fresh mixedLines).desk.evalUnmatched = true ∧
    Uninterrupted (endState (run (fresh mixedLines))).stack.journal ∧
    Conserved (endState (run (fresh mixedLines))).stack.journal
      (endState (run (fresh mixedLines))).desk.pending ∧
    handedOn (endState (run (fresh mixedLines))).stack.journal =
      ["1 +  2", "(1,", "!", "(3,", "cd 5", "4)"] ∧
    (Tally.of (endState (run (fresh mixedLines))).stack.journal).spent =
      [["1 +  2"], ["(1,"], ["(3,", "4)"]] := by
  have facts : ((endState (run (fresh mixedLines))).stack.journal.all
        (fun e => !e.event.interrupts) &&
      handedOn (endState (run (fresh mixedLines))).stack.journal ==
        ["1 +  2", "(1,", "!", "(3,", "cd 5", "4)"] &&
      (Tally.of (endState (run (fresh mixedLines))).stack.journal).spent ==
        [["1 +  2"], ["(1,"], ["(3,", "4)"]]) = true := by decide +kernel
  simp only [Bool.and_eq_true, beq_iff_eq] at facts
  obtain ⟨⟨silent, handed⟩, spent⟩ := facts
  have calm : Uninterrupted (endState (run (fresh mixedLines))).stack.journal := by
    intro e member interrupted
    have other := List.all_eq_true.mp silent e member
    rw [interrupted] at other
    cases other
  exact ⟨fresh_unread _, rfl, calm, (run_conserves (fresh_unread _) rfl calm).1, handed, spent⟩

end NestShell.Shell

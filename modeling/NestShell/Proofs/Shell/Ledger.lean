import NestShell.Proofs.Shell.Loop

/-!
# Who read the lines of a text

The journal tells which loop took which line. From it alone follows of which lines each text is made
up that is handed on or waits to be evaluated: lines that end in a backslash are joined to the next
one that is taken, whichever loop takes it, and texts wait until one completes them, whichever
session that happens in.
-/

namespace NestShell.Shell

open NestShell.Text

/-- A line, and the session whose loop read it. -/
structure Read where
  reader : Session
  line : String

/-- Whether a backslash joins a line to the next one. -/
def continues (line : String) : Bool := endsWith (trimEnd line) "\\"

/-- What a line that is joined to the next one contributes. -/
def Read.begun (r : Read) : String := String.ofList (trimEnd r.line).toList.dropLast

/-- The lines of one text: those that were joined to the next one, and the last. -/
structure Passage where
  before : List Read
  last : Read

namespace Passage

/-- The text of a passage as it is handed on. -/
def joined (p : Passage) : String :=
  if p.before.isEmpty then p.last.line
  else " ".intercalate (p.before.map Read.begun ++ [trimEnd p.last.line])

/-- The text of a passage as it waits to be evaluated. -/
def text (p : Passage) : String := trimEndOf ['\r', '\n'] p.joined

def reads (p : Passage) : List Read := p.before ++ [p.last]

/-- All lines were read by the loop of one session. -/
def ReadBy (p : Passage) (f : Session) : Prop := ∀ r ∈ p.reads, r.reader = f

end Passage

/-- What a journal tells of the lines that were read. -/
structure Ledger where
  /-- The lines that wait for the next one. -/
  begun : List Read := []
  /-- The latest passage that was complete. -/
  latest : Option Passage := none
  /-- The passages that wait to be evaluated. -/
  kept : List Passage := []
  /-- Since lines wait no session was started or closed. -/
  calm : Bool := true

namespace Ledger

def enter (l : Ledger) (e : Entry) : Ledger :=
  match e.event with
  | .opens | .closes _ => { l with calm := e.waiting == 0 }
  | .asks => { l with calm := l.calm || e.waiting == 0 }
  | .takes line =>
    if continues line then { l with begun := l.begun ++ [⟨e.session, line⟩] }
    else { l with begun := [], latest := some ⟨l.begun, ⟨e.session, line⟩⟩ }
  | .interrupted => { l with begun := [], kept := [], calm := true }
  | .keeps => { l with kept := l.kept ++ l.latest.toList }
  | .evaluates _ => { l with kept := [], calm := l.calm || l.begun.isEmpty }
  | _ => l

def of (journal : List Entry) : Ledger := journal.foldl enter {}

theorem of_append_singleton (journal : List Entry) (e : Entry) :
    of (journal ++ [e]) = (of journal).enter e := by
  unfold of
  rw [List.foldl_append]
  rfl

variable (l : Ledger) (f : Session) {line : String} (sessions : List Session) (n : Nat)

theorem enter_continues (more : continues line = true) :
    l.enter ⟨f, .takes line, sessions, n⟩ = { l with begun := l.begun ++ [⟨f, line⟩] } := by
  unfold enter
  dsimp only
  rw [if_pos more]

theorem enter_completes (last : continues line = false) :
    l.enter ⟨f, .takes line, sessions, n⟩ =
      { l with begun := [], latest := some ⟨l.begun, ⟨f, line⟩⟩ } := by
  unfold enter
  dsimp only
  rw [last, if_neg Bool.false_ne_true]

theorem enter_keeps {p : Passage} (latest : l.latest = some p) :
    l.enter ⟨f, .keeps, sessions, n⟩ = { l with kept := l.kept ++ [p] } := by
  unfold enter
  dsimp only
  rw [latest]
  rfl

end Ledger

/-- The event is about lines that are read or wait. -/
def Event.Concerns : Event → Prop
  | .opens | .asks | .closes _ | .takes _ | .submits _ | .interrupted | .keeps | .evaluates _ =>
    True
  | _ => False

namespace Ledger

variable (l : Ledger) (f : Session)

theorem enter_other {e : Entry} (other : ¬ e.event.Concerns) : l.enter e = l := by
  obtain ⟨f, event, sessions, waiting⟩ := e
  cases event <;> first | exact absurd trivial other | rfl

/-- The text is that of the latest passage. The loop of the session read its last line, and all of
its lines if no session was started or closed while they waited. -/
def Completes (text : String) : Prop :=
  ∃ p, l.latest = some p ∧ p.joined = text ∧ p.last.reader = f ∧ (l.calm = true → p.ReadBy f)

/-- The texts are those of the last passages that wait. The loop of the session read the last of
their lines, and all of them if no session was started or closed while they waited. -/
def Draws (texts : List String) : Prop :=
  ∃ passages, passages <:+ l.kept ∧ passages.map Passage.text = texts ∧
    (∃ p, passages.getLast? = some p ∧ p.last.reader = f) ∧
    (l.calm = true → ∀ p ∈ passages, p.ReadBy f)

end Ledger

/-- A text that a loop hands on, and the texts that are evaluated, are those of the ledger. -/
def Entry.Accords (e : Entry) (l : Ledger) : Prop :=
  match e.event with
  | .submits text => l.Completes e.session text
  | .evaluates texts => l.Draws e.session texts
  | _ => True

theorem Entry.accords_other {e : Entry} (other : ¬ e.event.Concerns) (l : Ledger) : e.Accords l := by
  obtain ⟨f, event, sessions, waiting⟩ := e
  cases event <;> first | exact absurd trivial other | trivial

/-- What holds of every entry of a journal and the entries before it. -/
def Throughout (Q : List Entry → Entry → Prop) (journal : List Entry) : Prop :=
  ∀ pre e post, journal = pre ++ e :: post → Q pre e

theorem Throughout.nil {Q : List Entry → Entry → Prop} : Throughout Q [] :=
  fun _ _ _ split => absurd split.symm (by simp)

theorem Throughout.note {Q : List Entry → Entry → Prop} {journal : List Entry}
    (h : Throughout Q journal) {e : Entry} (last : Q journal e) : Throughout Q (journal ++ [e]) := by
  intro pre d post split
  rcases List.eq_nil_or_concat post with rfl | ⟨post, c, rfl⟩
  · obtain ⟨rfl, same⟩ := List.append_inj' split rfl
    obtain rfl := List.singleton_inj.mp same
    exact last
  · have whole : journal ++ [e] = (pre ++ d :: post) ++ [c] := by rw [split]; simp
    obtain ⟨rfl, -⟩ := List.append_inj' whole rfl
    exact h pre d post rfl

/-- Every entry accords with what the journal tells before it. -/
def Accounted (journal : List Entry) : Prop :=
  ∀ pre e post, journal = pre ++ e :: post → e.Accords (Ledger.of pre)

theorem Accounted.note {journal : List Entry} (h : Accounted journal) {e : Entry}
    (last : e.Accords (Ledger.of journal)) : Accounted (journal ++ [e]) :=
  Throughout.note (Q := fun pre e => e.Accords (Ledger.of pre)) h last

/-! ## Lines that are joined -/

variable (d : Desk) {line : String}

theorem joinLine_continues (h : continues line = true) (f : Session) :
    joinLine d line = ({ d with continuation := d.continuation ++ [Read.begun ⟨f, line⟩] }, none) := by
  have ends : endsWith (trimEnd line) "\\" = true := h
  unfold joinLine Read.begun
  dsimp only
  rw [if_pos ends]

theorem joinLine_completes (h : continues line = false) (p : Passage)
    (begun : d.continuation = p.before.map Read.begun) (last : p.last.line = line) :
    joinLine d line = ({ d with continuation := [] }, some p.joined) := by
  have ends : ¬ endsWith (trimEnd line) "\\" = true := by
    rw [show endsWith (trimEnd line) "\\" = false from h]
    decide
  unfold joinLine Passage.joined
  dsimp only
  rw [if_neg ends]
  subst last
  cases before : p.before with
  | nil =>
    have none : d.continuation = [] := by rw [begun, before]; rfl
    have same : ({ d with continuation := [] } : Desk) = d := by rw [← none]
    rw [same, none, if_pos List.isEmpty_nil, if_pos List.isEmpty_nil]
  | cons r rest =>
    rw [before] at begun
    rw [begun, if_neg (by simp), if_neg (by simp)]

/-- A line that stands alone is handed on, and the desk only records it. -/
theorem takeLine_whole {s : State} {f : Session} (alone : s.desk.continuation = [])
    (last : continues line = false) (filled : isAllBlank line = false) :
    takeLine f line s = .ok (some line) (submitted f (taken f s line) line) ∧
      (submitted f (taken f s line) line).desk = recordLine line s.desk := by
  have joins : joinLine s.desk line = (s.desk, some line) := by
    rw [joinLine_completes s.desk last ⟨[], ⟨f, line⟩⟩ alone rfl, ← alone]
    rfl
  constructor
  · rw [takeLine_apply, joins]
    dsimp only
    rw [filled, Bool.false_and, if_neg Bool.false_ne_true]
  · rw [submitted_desk, taken_desk, joins]

end NestShell.Shell

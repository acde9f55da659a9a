import NestShell.Proofs.Commands.Bodies
import NestShell.Proofs.Shell.Fresh
import NestShell.Proofs.Shell.Handling
import NestShell.Proofs.Shell.Ledger
import NestShell.Proofs.Shell.Reading

/-!
# Lines that are replayed

A line that a loop takes was to be replayed or is an answer of the source. Only bodies of commands
add lines to those that are to be replayed: `hist` adds no more lines than the history keeps. So a
replay ends unless commands that add lines run again and again. Nothing keeps a line that adds lines
from adding itself: `hist` leaves out the newest line of the history, but an older one may be the
same.
-/

namespace NestShell.Shell

open NestShell.Code

/-! ## What is counted -/

/-- The number of lines that a step has replayed. -/
def linesOfStep : Command.Step → Nat
  | .replay lines => lines.length
  | _ => 0

def linesOfSteps : List Command.Step → Nat
  | [] => 0
  | step :: rest => linesOfStep step + linesOfSteps rest

/-- The most lines that a body has replayed, where a history keeps no more than `limit` lines. -/
def mostQueued (limit : Nat) : Command.Body → Nat
  | .builtin .hist => limit
  | .steps steps => linesOfSteps steps
  | _ => 0

def Event.queues (limit : Nat) : Event → Nat
  | .runs c _ => mostQueued limit c.body
  | _ => 0

/-- The most lines that the commands of a journal have replayed. -/
def linesQueued (limit : Nat) : List Entry → Nat
  | [] => 0
  | e :: rest => e.event.queues limit + linesQueued limit rest

def Event.takesLine : Event → Bool
  | .takes _ => true
  | _ => false

/-- The number of lines that the loops took. -/
def linesTaken (journal : List Entry) : Nat := journal.countP fun e => e.event.takesLine

/-- The history keeps no more than `limit` lines, now and later. -/
def Remembers (limit : Nat) (d : Desk) : Prop :=
  ∀ h, d.history = some h → h.limit ≤ limit ∧ h.entries.length ≤ limit

/-- Between two states the loops took no more lines than were to be replayed, the source gave, and
commands had replayed, and `more`. Those that are still to be replayed count as well. -/
structure Replays (limit more : Nat) (s t : State) : Prop where
  remembers : Remembers limit t.desk
  taken : ∃ new requests, t.stack.journal = s.stack.journal ++ new ∧
    t.desk.source.exchanges = requests ++ s.desk.source.exchanges ∧
    linesTaken new + t.desk.replay.length ≤
      s.desk.replay.length + requests.length + linesQueued limit new + more

/-- The same where the history of the first state keeps no more than `limit` lines. -/
def Spends (limit more : Nat) (s t : State) : Prop :=
  Remembers limit s.desk → Replays limit more s t

theorem Remembers.of_history {limit : Nat} {d e : Desk} (h : Remembers limit d)
    (same : e.history = d.history) : Remembers limit e := by
  unfold Remembers
  rw [same]
  exact h

section Counts

variable (limit : Nat) (j k : List Entry)

theorem linesTaken_append : linesTaken (j ++ k) = linesTaken j + linesTaken k :=
  List.countP_append

theorem linesQueued_append : linesQueued limit (j ++ k) = linesQueued limit j + linesQueued limit k := by
  induction j with
  | nil => rw [List.nil_append, linesQueued, Nat.zero_add]
  | cons e rest ih => rw [List.cons_append, linesQueued, linesQueued, ih, Nat.add_assoc]

end Counts

variable {limit m n : Nat} {s t u : State}

namespace Replays

theorem mono (h : Replays limit m s t) (le : m ≤ n) : Replays limit n s t := by
  obtain ⟨new, requests, journal, exchanges, fewer⟩ := h.taken
  exact ⟨h.remembers, new, requests, journal, exchanges, by omega⟩

theorem trans (first : Replays limit m s t) (second : Replays limit n t u) :
    Replays limit (m + n) s u := by
  obtain ⟨new, requests, journal, exchanges, fewer⟩ := first.taken
  obtain ⟨new', requests', journal', exchanges', fewer'⟩ := second.taken
  refine ⟨second.remembers, new ++ new', requests' ++ requests, ?_, ?_, ?_⟩
  · rw [journal', journal, List.append_assoc]
  · rw [exchanges', exchanges, List.append_assoc]
  · rw [linesTaken_append, linesQueued_append, List.length_append]
    omega

/-- No entry, and lines at the desk that were to be replayed or given up. -/
theorem of_desk (remembers : Remembers limit t.desk) (journal : t.stack.journal = s.stack.journal)
    (requests : List Exchange)
    (exchanges : t.desk.source.exchanges = requests ++ s.desk.source.exchanges)
    (fewer : t.desk.replay.length ≤ s.desk.replay.length + requests.length + n) :
    Replays limit n s t := by
  refine ⟨remembers, [], requests, by rw [journal, List.append_nil], exchanges, ?_⟩
  change 0 + _ ≤ _ + 0 + n
  omega

theorem of_same (remembers : Remembers limit s.desk) (journal : t.stack.journal = s.stack.journal)
    (history : t.desk.history = s.desk.history) (replay : t.desk.replay = s.desk.replay)
    (source : t.desk.source = s.desk.source) : Replays limit 0 s t := by
  exact .of_desk (remembers.of_history history) journal [] (by rw [source]; rfl)
    (by rw [replay]; omega)

/-- An entry. -/
theorem note (remembers : Remembers limit s.desk) (f : Session) (e : Event) (waiting : Nat)
    (counts : (if e.takesLine then 1 else 0) ≤ e.queues limit + n) :
    Replays limit n s { s with stack := s.stack.note f e waiting } := by
  refine ⟨remembers, [⟨f, e, s.stack.sessions, waiting⟩], [], rfl, rfl, ?_⟩
  unfold linesTaken
  rw [List.countP_singleton, linesQueued, linesQueued, List.length_nil]
  dsimp only
  omega

/-- An entry of no line. -/
theorem note_other (remembers : Remembers limit s.desk) (f : Session) {e : Event} (waiting : Nat)
    (other : e.takesLine = false) :
    Replays limit 0 s { s with stack := s.stack.note f e waiting } :=
  .note remembers f e waiting (by rw [other]; exact Nat.zero_le _)

end Replays

namespace Spends

theorem mono (h : Spends limit m s t) (le : m ≤ n) : Spends limit n s t :=
  fun remembers => (h remembers).mono le

theorem trans (first : Spends limit m s t) (second : Spends limit n t u) :
    Spends limit (m + n) s u :=
  fun remembers => (first remembers).trans (second (first remembers).remembers)

end Spends

instance : KeptClosed (Spends limit 0) where
  refl _ remembers := .of_same remembers rfl rfl rfl rfl
  trans _ _ _ first second := first.trans second
  kept same remembers := .of_same remembers rfl same.history same.replay same.source

instance : Permissive (Spends limit 0) where
  note s f e n handling remembers :=
    .note_other remembers f n (by cases e <;> first | rfl | cases handling)
  register same remembers := .of_same remembers rfl same.history same.replay same.source
  leaves s f _ _ _ n remembers := .note_other remembers f n rfl
  carry _ _ remembers := .of_same remembers rfl rfl rfl rfl
  cut _ journal remembers := .of_same remembers journal rfl rfl rfl

section Costs

variable {α β : Type} {p : ShellM α}

theorem spends_bind {f : α → ShellM β} (hp : Stays (Spends limit m) p)
    (hf : ∀ a, Stays (Spends limit n) (f a)) : Stays (Spends limit (m + n)) (p >>= f) := by
  refine ⟨fun s => ?_⟩
  rw [bind_apply]
  cases done : p s with
  | ok a t => exact (hp.of_ok done).trans ((hf a).within t)
  | error e t => exact (hp.of_error done).mono (Nat.le_add_right m n)

theorem spends_tryCatch {h : Stop → ShellM α} (hp : Stays (Spends limit n) p)
    (hh : ∀ e, Stays (Spends limit 0) (h e)) : Stays (Spends limit n) (tryCatch p h) := by
  refine ⟨fun s => ?_⟩
  rw [tryCatch_apply]
  cases done : p s with
  | ok a t => exact hp.of_ok done
  | error e t => exact (hp.of_error done).trans ((hh e).within t)

end Costs

theorem spends_note (f : Session) {e : Event} (other : e.takesLine = false) :
    Stays (Spends limit 0) (ShellM.note f e) :=
  .modify fun _ remembers => .note_other remembers f _ other

/-! ## At the desk -/

/-- Lines that were to be replayed may be gone, and the source may have been asked. -/
structure Draws (d e : Desk) : Prop where
  history : e.history = d.history := by rfl
  drawn : ∃ requests, e.source.exchanges = requests ++ d.source.exchanges ∧
    e.replay.length ≤ d.replay.length + requests.length

namespace Draws

variable {d e : Desk}

theorem of_same (history : e.history = d.history) (replay : e.replay = d.replay)
    (source : e.source = d.source) : Draws d e :=
  ⟨history, [], by rw [source]; rfl, by rw [replay]; exact Nat.le_refl _⟩

theorem spends (h : Draws s.desk d) : Spends limit 0 s { s with desk := d } := by
  intro remembers
  obtain ⟨requests, exchanges, fewer⟩ := h.drawn
  exact .of_desk (remembers.of_history h.history) rfl requests exchanges fewer

instance : Tolerant Draws where
  refl _ := of_same rfl rfl rfl
  trans _ _ _ first second := by
    obtain ⟨requests, exchanges, fewer⟩ := first.drawn
    obtain ⟨requests', exchanges', fewer'⟩ := second.drawn
    refine ⟨second.history.trans first.history, requests' ++ requests, ?_, ?_⟩
    · rw [exchanges', exchanges, List.append_assoc]
    · rw [List.length_append]
      omega
  kept same := of_same same.history same.replay same.source

end Draws

open DeskM

theorem draws_logExchange (depth : Nat) (prompt : String) (answer : Option Input)
    (rest : List Input) : Stays Draws (logExchange depth prompt answer rest) :=
  .modify fun _ => ⟨rfl, [_], rfl, Nat.le_succ _⟩

instance draws_request (depth : Nat) (prompt : String) : Stays Draws (request depth prompt) := by
  have logged := draws_logExchange depth prompt
  unfold request
  refine .bind inferInstance fun d => ?_
  split
  · infer_instance
  · infer_instance
  · split <;> infer_instance

instance draws_readLine (depth : Nat) (prompt : String) : Stays Draws (readLine depth prompt) := by
  unfold readLine
  refine .get_bind fun d => ?_
  cases lines : d.replay with
  | cons line rest =>
    have shorter : rest.length ≤ d.replay.length := by rw [lines]; exact Nat.le_succ _
    exact ⟨rfl, [], rfl, shorter⟩
  | nil =>
    have asked : Stays Draws (if d.attached then request depth prompt else endOfInput none) :=
      inferInstance
    exact asked.within d

/-- An answer of the source is one exchange. -/
theorem request_logged {depth : Nat} {prompt line : String} {d e : Desk}
    (answered : request depth prompt d = .ok line e) : e.history = d.history ∧
      e.replay = d.replay ∧ ∃ x, e.source.exchanges = x :: d.source.exchanges := by
  unfold request at answered
  rw [bind_apply, get_apply] at answered
  dsimp only at answered
  cases lines : d.source.inputs with
  | cons input rest =>
    rw [lines] at answered
    cases input with
    | line given =>
      dsimp only at answered
      rw [logged_apply] at answered
      cases answered
      exact ⟨rfl, rfl, _, rfl⟩
    | interrupt =>
      dsimp only at answered
      rw [logged_apply] at answered
      cases answered
  | nil =>
    rw [lines] at answered
    cases ending : d.source.ending with
    | awaiting =>
      rw [ending] at answered
      dsimp only at answered
      rw [bind_apply, showPrompt_apply] at answered
      cases answered
    | ended message =>
      rw [ending] at answered
      dsimp only at answered
      rw [logged_apply] at answered
      cases message <;> cases answered

/-! ## Bodies -/

section Bodies

open Commands

variable {back : Reentry} (ctx : Context)

theorem draws_runAtDesk {b : Command.Builtin} (other : b ≠ .hist) :
    Stays Draws (runAtDesk ctx b) :=
  stays_runAtDesk ctx (.modify fun _ => .of_same rfl rfl rfl) fun hist => absurd hist other

/-- The lines of a history are added at most. -/
theorem spends_runHist : Stays (Spends limit limit) (ShellM.ofDesk (runHist ctx)) := by
  refine ⟨fun s remembers => ?_⟩
  obtain ⟨lines, kept, fewer⟩ := runHist_queues ctx s.desk fun h same => (remembers h same).2
  rw [ofDesk_apply]
  have queued (d : Desk) (kept : Kept { s.desk with replay := s.desk.replay ++ lines } d) :
      Replays limit limit s { s with desk := d } := by
    refine .of_desk (remembers.of_history kept.history) rfl [] (by rw [kept.source]; rfl) ?_
    rw [kept.replay, List.length_append, List.length_nil]
    omega
  cases ran : runHist ctx s.desk with
  | ok r d =>
    rw [ran] at kept
    exact queued d kept
  | error e d =>
    rw [ran] at kept
    exact queued d kept

section Reentry

variable (run : ∀ line, Stays (Spends limit 0) (back.run line))
  (start : ∀ receiver, Stays (Spends limit 0) (back.start receiver))
include run start

theorem spends_built {α : Type} {p : ShellM α} (built : Built Draws back p) :
    Stays (Spends limit 0) p :=
  built.stays Draws.spends
    (fun s f remembers => .of_same remembers (s.stack.release_journal f) rfl rfl rfl) run start

theorem spends_takeStep (step : Command.Step) :
    Stays (Spends limit (linesOfStep step)) (takeStep back ctx step) := by
  cases reads : readsLines step with
  | false =>
    have built := (built_takeStep_kept back ctx reads).mono fun _ _ => Tolerant.kept (K := Draws)
    exact (spends_built run start built).mono fun _ _ spends => spends.mono (Nat.zero_le _)
  | true =>
    cases step with
    | read prompt =>
      exact spends_built run start (.bind .look fun _ => .bind (.desk _ inferInstance) fun _ => .pure _)
    | replay lines =>
      have queued : Stays (Spends limit lines.length)
          (ShellM.modifyDesk fun d => { d with replay := d.replay ++ lines }) := by
        refine .modify fun s remembers => .of_desk remembers rfl [] rfl ?_
        rw [List.length_append, List.length_nil]
        omega
      exact spends_bind (n := 0) queued inferInstance
    | _ => cases reads

theorem spends_takeSteps (steps : List Command.Step) :
    Stays (Spends limit (linesOfSteps steps)) (takeSteps back ctx steps) := by
  induction steps with
  | nil => exact stays_pure (R := Spends limit 0) _
  | cons step rest ih =>
    refine spends_bind (spends_takeStep ctx run start step) fun reply => ?_
    cases reply with
    | none => exact ih
    | some reply =>
      have done : Stays (Spends limit 0) (pure reply : ShellM Reply) := inferInstance
      exact done.mono fun _ _ spends => spends.mono (Nat.zero_le _)

/-- A body adds no more lines than its command may. -/
theorem spends_body :
    Stays (Spends limit (mostQueued limit ctx.command.body)) (bodies back ctx) := by
  have free {p : ShellM Reply} (built : Built Draws back p) (most : Nat) :
      Stays (Spends limit most) p :=
    (spends_built run start built).mono fun _ _ spends => spends.mono (Nat.zero_le _)
  have atDesk {p : ShellM Reply} (built : Built Kept back p) : Built Draws back p :=
    built.mono fun _ _ => Tolerant.kept
  unfold bodies
  cases body : ctx.command.body with
  | builtin b =>
    dsimp only
    unfold runBuiltin
    split
    · exact free (atDesk (built_runCd back ctx)) _
    · exact free (atDesk (built_runNest back ctx)) _
    · exact free (atDesk (built_runPydoc back ctx)) _
    · by_cases hist : b = .hist
      · subst hist
        exact spends_runHist ctx
      · exact free (.desk _ (draws_runAtDesk ctx hist)) _
  | steps steps => exact spends_takeSteps ctx run start steps
  | absent => exact free (.desk _ inferInstance) _

/-- A body with its line's command in the journal, which tells how many lines it may add. -/
theorem spends_runBody (remainder : String) :
    Stays (Spends limit 0) (runBody (bodies back) ctx remainder) := by
  have body : Stays (Spends limit (mostQueued limit ctx.command.body)) (bodies back ctx) :=
    spends_body ctx run start
  have performed : Stays (Spends limit (mostQueued limit ctx.command.body))
      (performIn (bodies back) ctx) := by
    unfold performIn
    exact spends_tryCatch (spends_bind (n := 0) body inferInstance) inferInstance
  refine ⟨fun s remembers => ?_⟩
  let e : Entry :=
    ⟨ctx.stack.top, .runs ctx.command remainder, s.stack.sessions, s.desk.waiting⟩
  have paid (t : State) (h : Replays limit (mostQueued limit ctx.command.body)
      (entered s ctx remainder) t) : Replays limit 0 s (cleared t) := by
    obtain ⟨new, requests, journal, exchanges, fewer⟩ := h.taken
    refine ⟨h.remembers, e :: new, requests, ?_, exchanges, ?_⟩
    · exact journal.trans (List.append_assoc _ [e] new)
    · have entry : linesTaken (e :: new) = linesTaken new := List.countP_cons_of_neg nofun
      have most : linesQueued limit (e :: new) =
          mostQueued limit ctx.command.body + linesQueued limit new := rfl
      rw [entry, most]
      change linesTaken new + t.desk.replay.length ≤ _
      change _ ≤ s.desk.replay.length + _ + _ + _ at fewer
      omega
  rw [endState_runBody]
  exact paid _ (performed.within (entered s ctx remainder) remembers)

end Reentry

end Bodies

/-! ## Loops -/

section Loops

variable {perform : Context → ShellM Reply} {f : Session}

theorem spends_prompted (prompt : String) (s : State) : Spends limit 0 s (prompted prompt s) :=
  fun remembers => .note_other remembers _ _ rfl

/-- Reading a line pays for taking it: it was to be replayed, or it is an answer of the source. -/
theorem nextLine_pays {prompt line : String} (read : nextLine prompt s = .ok line t)
    (rest : Spends limit 1 t u) : Spends limit 0 s u := by
  -- one line less is to be replayed, or one answer more was given
  have paid (requests : List Exchange)
      (journal : t.stack.journal = (prompted prompt s).stack.journal)
      (history : t.desk.history = s.desk.history)
      (exchanges : t.desk.source.exchanges = requests ++ s.desk.source.exchanges)
      (fewer : t.desk.replay.length + 1 ≤ s.desk.replay.length + requests.length) :
      Spends limit 0 (prompted prompt s) u := by
    intro remembers
    obtain ⟨last, new, more, journal', exchanges', fewer'⟩ := rest (remembers.of_history history)
    refine ⟨last, new, more ++ requests, by rw [journal', journal], ?_, ?_⟩
    · rw [exchanges', exchanges, List.append_assoc]
      rfl
    · change _ ≤ s.desk.replay.length + _ + _ + _
      rw [List.length_append]
      omega
  refine IsTrans.trans _ _ _ (spends_prompted prompt s) ?_
  cases replay : s.desk.replay with
  | cons first others =>
    obtain ⟨m, same⟩ := nextLine_replay prompt replay
    rw [same] at read
    cases read
    refine paid [] rfl rfl rfl ?_
    rw [replay]
    exact Nat.le_refl _
  | nil =>
    rw [nextLine_source prompt replay, ofDesk_apply] at read
    cases answered : request s.stack.depth prompt (prompted prompt s).desk with
    | error e d =>
      rw [answered] at read
      cases read
    | ok given d =>
      rw [answered] at read
      cases read
      obtain ⟨history, same, x, exchanges⟩ := request_logged answered
      refine paid [x] rfl history exchanges ?_
      change d.replay.length + 1 ≤ _
      rw [same]
      exact Nat.le_refl _

instance spends_nextLine (prompt : String) : Stays (Spends limit 0) (nextLine prompt) := by
  refine ⟨fun s => IsTrans.trans _ _ _ (spends_prompted prompt s) ?_⟩
  cases replay : s.desk.replay with
  | cons line rest =>
    obtain ⟨m, same⟩ := nextLine_replay prompt replay
    rw [same]
    have shorter : rest.length ≤ s.desk.replay.length := by
      rw [replay]
      exact Nat.le_succ _
    have drawn : Draws s.desk { s.desk with replay := rest, machine := m } :=
      ⟨rfl, [], rfl, shorter⟩
    exact Draws.spends (s := prompted prompt s) drawn
  | nil =>
    have asked : Stays (Spends limit 0) (ShellM.ofDesk (request s.stack.depth prompt)) :=
      stays_ofDesk_of _ inferInstance Draws.spends
    rw [nextLine_source prompt replay]
    exact asked.within (prompted prompt s)

instance spends_readNext : Stays (Spends limit 0) readNext := by
  unfold readNext
  infer_instance

theorem readNext_pays {line : String} (read : readNext s = .ok (.line line) t)
    (rest : Spends limit 1 t u) : Spends limit 0 s u := by
  unfold readNext at read
  obtain read | ⟨e, v, d, -, -, other⟩ := catching_ok read
  · obtain read | ⟨e, v, d, -, -, other⟩ := catching_ok read
    · obtain ⟨prompt, v, made, read⟩ := bind_ok read
      obtain ⟨given, w, given_line, read⟩ := bind_ok read
      cases read
      have shown : Stays (Spends limit 0) promptText := inferInstance
      exact IsTrans.trans _ _ _ (shown.of_ok made) (nextLine_pays given_line rest)
    · cases other
  · cases other

theorem append_within {h : History} (line : String)
    (within : h.limit ≤ limit ∧ h.entries.length ≤ limit) :
    (h.append line).limit ≤ limit ∧ (h.append line).entries.length ≤ limit := by
  unfold HistoryOf.append
  split
  · exact within
  · refine ⟨within.1, ?_⟩
    unfold History.lastOf
    dsimp only
    rw [List.length_drop]
    omega

/-- The history never keeps more lines than its limit. -/
theorem remembers_recordLine {d : Desk} (text : String) (remembers : Remembers limit d) :
    Remembers limit (recordLine text d) := by
  intro later same
  rw [recordLine_history] at same
  obtain ⟨h, known, rfl⟩ := Option.map_eq_some_iff.mp same
  unfold HistoryOf.record
  split
  · exact remembers h known
  · dsimp only
    exact append_within text (remembers h known)

theorem spends_taken (line : String) : Spends limit 1 s (taken f s line) := by
  obtain ⟨texts, joined⟩ := joinLine_eq s.desk line
  have desk := (taken_desk f s line).trans joined
  refine fun remembers => ⟨?_, _, [], taken_journal f s line, ?_, ?_⟩
  · rw [desk]
    exact remembers
  · rw [desk]
    rfl
  · rw [desk]
    exact Nat.le_of_eq (Nat.add_comm 1 _)

theorem spends_submitted (text : String) : Spends limit 0 s (submitted f s text) := by
  have recorded : Spends limit 0 s { s with desk := recordLine text s.desk } := by
    intro remembers
    refine .of_desk (remembers_recordLine text remembers) rfl [] ?_ ?_
    · exact congrArg Source.exchanges (recordLine_source s.desk text)
    · exact Nat.le_of_eq (congrArg List.length (recordLine_replay s.desk text))
  have noted : Spends limit 0 { s with desk := recordLine text s.desk } (submitted f s text) :=
    fun remembers => .note_other remembers f _ rfl
  exact IsTrans.trans _ _ _ recorded noted

/-- A loop takes one line at a time. -/
theorem spends_takeLine (line : String) : Stays (Spends limit 1) (takeLine f line) := by
  refine ⟨fun s => ?_⟩
  rw [takeLine_apply]
  split
  · exact spends_taken line
  · split
    · exact spends_taken line
    · exact (spends_taken line).trans (spends_submitted _)

section Turns

variable [∀ ctx remainder, Stays (Spends limit 0) (runBody perform ctx remainder)]

theorem spends_line (line : String) : Stays (Spends limit 1) (stepLoop perform f (.line line)) := by
  have handled (text : String) : Stays (Spends limit 0) (handleText perform f text) := inferInstance
  refine spends_bind (n := 0) (spends_takeLine line) fun text => ?_
  cases text with
  | none => exact stays_pure true
  | some text => exact handled text

instance spends_asks (f : Session) : Stays (Spends limit 0) (ShellM.note f .asks) :=
  spends_note f rfl

theorem spends_turn (f : Session) : Stays (Spends limit 0) (turn perform f) := by
  refine ⟨fun s => ?_⟩
  rw [turn_apply]
  let v : State := { s with stack := s.stack.note f .asks s.desk.waiting }
  have asked : Spends limit 0 s v := (spends_asks f).within s
  have reads : Stays (Spends limit 0) readNext := inferInstance
  refine IsTrans.trans _ _ _ asked ?_
  rw [bind_apply]
  cases read : readNext v with
  | error e t => exact reads.of_error read
  | ok r t =>
    dsimp only
    cases r with
    | line line => exact readNext_pays read ((spends_line line).within t)
    | interrupted =>
      have rest : Stays (Spends limit 0) (stepLoop perform f .interrupted) := stays_interrupted f
      exact IsTrans.trans _ _ _ (reads.of_ok read) (rest.within t)
    | ended =>
      have rest : Stays (Spends limit 0) (stepLoop perform f .ended) :=
        stays_ended f (fun _ remembers => .of_same remembers rfl rfl rfl rfl) (spends_note f rfl)
      exact IsTrans.trans _ _ _ (reads.of_ok read) (rest.within t)

end Turns

/-- Every body with its line's command, however deep sessions nest in it. -/
theorem spends_perform (ctx : Context) (remainder : String) :
    Stays (Spends limit 0) (runBody Commands.perform ctx remainder) := by
  refine stays_runBody_reentry (fun _ run start ctx => spends_runBody ctx run start)
    (fun perform _ receiver => ?_) nestingFuel ctx remainder
  exact stays_startSession (fun journal remembers => .of_same remembers journal rfl rfl rfl)
    (fun f => spends_note f rfl) (fun f _ => spends_note f rfl) spends_turn receiver

end Loops

/-- However long a loop runs, it and the loops in it take no more lines than there are requests of
the source, lines that were to be replayed, and lines that the commands which ran had replayed.
Those that are left to be replayed are counted with the lines that were taken. So the replay of a
`hist` line ends unless lines that have lines replayed run again and again. -/
theorem loop_replays (remembers : Remembers limit s.desk) (f : Session) (fuel : Nat) :
    let t := endState (sessionLoop Commands.perform f fuel s)
    ∃ new requests, t.stack.journal = s.stack.journal ++ new ∧
      t.desk.source.exchanges = requests ++ s.desk.source.exchanges ∧
      linesTaken new + t.desk.replay.length ≤
        s.desk.replay.length + requests.length + linesQueued limit new := by
  have bodies (ctx : Context) (remainder : String) :
      Stays (Spends limit 0) (runBody Commands.perform ctx remainder) := spends_perform ctx remainder
  have looped : Stays (Spends limit 0) (sessionLoop Commands.perform f fuel) :=
    stays_sessionLoop (spends_turn f) fuel
  exact (looped.within s remembers).taken

/-- A history as it is loaded keeps no more lines than its limit. -/
theorem remembers_ofText {d : Desk} {path text : Option String} {n : Int}
    (loaded : d.history = some (History.ofText path n text)) :
    Remembers (History.limitOf n) d := by
  intro h known
  obtain rfl := Option.some.inj (loaded.symm.trans known)
  refine ⟨Nat.le_refl _, ?_⟩
  unfold History.ofText
  cases text with
  | none => exact Nat.zero_le _
  | some text =>
    dsimp only [Option.map_some, Option.getD_some, History.readEntries]
    unfold History.lastOf
    rw [List.length_map, List.length_drop]
    omega

/-- A shell with an empty history that keeps four lines. -/
def remembering : State :=
  let s := fresh ["1", "hist -r 0"]
  { s with desk := { s.desk with history := some (History.ofText none 4 none) } }

/-- Two lines are read, and one of them is replayed. -/
theorem replayed_once : Remembers 4 remembering.desk ∧
    let t := endState (sessionLoop Commands.perform remembering.stack.base lineFuel remembering)
    linesTaken t.stack.journal = 3 ∧ t.desk.replay = [] ∧
      linesTaken t.stack.journal + t.desk.replay.length ≤
        remembering.desk.replay.length + t.desk.source.exchanges.length +
          linesQueued 4 t.stack.journal := by
  have remembers : Remembers 4 remembering.desk :=
    remembers_ofText (d := remembering.desk) (n := 4) rfl
  have facts : (
      let t := endState (sessionLoop Commands.perform remembering.stack.base lineFuel remembering)
      linesTaken t.stack.journal == 3 && t.desk.replay == []) = true := by decide +kernel
  rw [Bool.and_eq_true, beq_iff_eq, beq_iff_eq] at facts
  obtain ⟨new, requests, journal, exchanges, fewer⟩ :=
    loop_replays remembers remembering.stack.base lineFuel
  refine ⟨remembers, facts.1, facts.2, ?_⟩
  rw [journal, exchanges]
  change linesTaken ([] ++ new) + _ ≤ _ + (requests ++ []).length + linesQueued 4 ([] ++ new)
  rw [List.nil_append, List.append_nil]
  exact fewer

/-! ## A line that has itself replayed -/

/-- A `hist` line that has the first entry of the history replayed. -/
def firstAgain : String := "hist -r 0"

/-- The line has its command, which reads the range from it. -/
structure Finds (r : Registry) (m : Registry.Match) (options : Options.Parsed) : Prop where
  found : r.match? firstAgain = some m
  body : m.command.body = .builtin .hist
  plain : m.command.keepsValue = false
  read : readOptions m.command m.remainder = .ok options
  noHelp : options.helpRequested = false
  given : options.isGiven "replay" = true
  range : options.text? "replay" = some "0"

/-- The first and the newest entry of the history are the line that is to be replayed. -/
structure Circling (f : Session) (s : State) : Prop where
  inside : s.stack.contains f = true
  toplevel : s.stack.top.scope.toplevel = true
  replay : s.desk.replay = [firstAgain]
  history : ∃ h, s.desk.history = some h ∧ h.entries = [firstAgain, "1", firstAgain]
  continuation : s.desk.continuation = []
  goesOn : s.desk.exhausted = false
  style : s.desk.promptStyle = .standard
  finds : ∃ m options, Finds s.desk.registry m options

section Circle

variable {f : Session}

theorem promptText_main (style : s.desk.promptStyle = .standard)
    (toplevel : s.stack.top.scope.toplevel = true) :
    ∃ prompt, promptText s = .ok prompt s := by
  have label : ShellM.ofDesk (sessionLabel s.stack.top) s = .ok "main" s := by
    unfold sessionLabel
    rw [if_pos toplevel]
    rfl
  unfold promptText
  rw [bind_apply, get_apply]
  dsimp only
  rw [style]
  dsimp only
  rw [bind_apply, label]
  exact ⟨_, rfl⟩

/-- The line is read again. -/
theorem readNext_again (circling : Circling f s) : ∃ prompt m, readNext s =
    .ok (.line firstAgain) { prompted prompt s with desk := { s.desk with replay := [], machine := m } } := by
  obtain ⟨prompt, shown⟩ := promptText_main circling.style circling.toplevel
  obtain ⟨m, read⟩ := nextLine_replay prompt circling.replay
  refine ⟨prompt, m, ?_⟩
  unfold readNext ShellM.catching
  rw [tryCatch_apply, tryCatch_apply, bind_apply, shown]
  dsimp only
  rw [bind_apply, read]
  rfl

/-- The entry is not kept again, as it is the newest one. -/
theorem recordLine_again {d : Desk} {h : History} (known : d.history = some h)
    (entries : h.entries = [firstAgain, "1", firstAgain]) : recordLine firstAgain d = d := by
  have none : h.entry? firstAgain = none := by
    unfold HistoryOf.entry?
    rw [entries]
    decide +kernel
  unfold recordLine
  rw [known]
  dsimp only
  unfold HistoryOf.record
  rw [none]
  dsimp only
  rw [← known]

/-- The line has the first entry replayed, not the newest. -/
theorem runHist_again {ctx : Context} {d : Desk} {h : History} (line : ctx.line = firstAgain)
    (given : ctx.options.isGiven "replay" = true) (range : ctx.options.text? "replay" = some "0")
    (known : d.history = some h) (entries : h.entries = [firstAgain, "1", firstAgain]) :
    Commands.runHist ctx d = .ok .nothing { d with replay := d.replay ++ [firstAgain] } := by
  have selected : ({ start := 0 } : History.Range).select
      (Commands.replayable d.history ctx.line) = [firstAgain] := by
    rw [known, line]
    unfold Commands.replayable
    dsimp only
    rw [entries]
    decide +kernel
  have reads : History.Range.read "0" = .ok (some { start := 0 }) := by rfl
  rw [Commands.runHist_selects ctx given range reads selected]
  rfl

/-- The line runs its command, which has it replayed once more. -/
theorem dispatch_again {m : Registry.Match} {options : Options.Parsed} {h : History}
    (finds : Finds s.desk.registry m options) (known : s.desk.history = some h)
    (entries : h.entries = [firstAgain, "1", firstAgain]) :
    dispatchWith Commands.perform firstAgain s = .ok (.handled (.proceed none))
      ⟨s.stack.note s.stack.top (.runs m.command m.remainder) s.desk.waiting,
        { s.desk with replay := s.desk.replay ++ [firstAgain], trailing := "" }⟩ := by
  let ctx : Context := ⟨m.command, firstAgain, options, s.stack.top.scope, s.stack⟩
  let v : State := entered s ctx m.remainder
  have body : Commands.perform ctx = ShellM.ofDesk (Commands.runHist ctx) := by
    unfold Commands.perform performing Commands.bodies
    rw [show ctx.command.body = .builtin .hist from finds.body]
    rfl
  have hist : Commands.runHist ctx v.desk =
      .ok .nothing { v.desk with replay := v.desk.replay ++ [firstAgain] } :=
    runHist_again rfl finds.given finds.range known entries
  have ran : Commands.perform ctx v =
      .ok .nothing { v with desk := { v.desk with replay := v.desk.replay ++ [firstAgain] } } := by
    rw [body, ofDesk_apply, hist]
  have performed : performIn Commands.perform ctx v =
      .ok (.proceed none) { v with desk := { v.desk with replay := v.desk.replay ++ [firstAgain] } } := by
    have quiet : Reply.nothing.toSignal ctx.command.keepsValue = .proceed none := by
      rw [show ctx.command.keepsValue = false from finds.plain]
      rfl
    rw [performIn_apply, ran]
    dsimp only
    rw [quiet]
  rw [dispatchWith_body _ finds.found finds.read finds.noHelp, performed]
  rfl

theorem handle_again {m : Registry.Match} {options : Options.Parsed} {h : History}
    (finds : Finds s.desk.registry m options) (known : s.desk.history = some h)
    (entries : h.entries = [firstAgain, "1", firstAgain]) (goesOn : s.desk.exhausted = false) :
    handle Commands.perform firstAgain s = .ok none
      ⟨s.stack.note s.stack.top (.runs m.command m.remainder) s.desk.waiting,
        { s.desk with replay := s.desk.replay ++ [firstAgain], trailing := "", status := 0 }⟩ := by
  let t : State := ⟨s.stack.note s.stack.top (.runs m.command m.remainder) s.desk.waiting,
    { s.desk with replay := s.desk.replay ++ [firstAgain], trailing := "", status := 0 }⟩
  have dispatched : dispatchWith Commands.perform firstAgain s.begun =
      .ok (.handled (.proceed none)) t := dispatch_again (s := s.begun) finds known entries
  have same : s.marked t = t := State.marked_same rfl
  have here : decide (t.stack.depth < s.stack.depth) = false := decide_eq_false (Nat.lt_irrefl _)
  change handle Commands.perform firstAgain s = .ok none t
  rw [handle_apply, dispatched]
  dsimp only
  rw [same, obeyAt_apply, here, Bool.false_or, show t.desk.exhausted = false from goesOn]
  rfl

/-- The line is handed on, and nothing at the desk changes by that. -/
theorem takeLine_again {h : History} (continuation : s.desk.continuation = [])
    (known : s.desk.history = some h) (entries : h.entries = [firstAgain, "1", firstAgain]) :
    takeLine f firstAgain s =
        .ok (some firstAgain) (submitted f (taken f s firstAgain) firstAgain) ∧
      (submitted f (taken f s firstAgain) firstAgain).desk = s.desk := by
  have last : continues firstAgain = false := by decide +kernel
  have plain : Text.isAllBlank firstAgain = false := by decide +kernel
  obtain ⟨took, desk⟩ := takeLine_whole (f := f) continuation last plain
  exact ⟨took, desk.trans (recordLine_again known entries)⟩

/-- The circle goes round: one line is taken, and the same one is to be replayed. -/
theorem turn_again (circling : Circling f s) : ∃ t, turn Commands.perform f s = .ok true t ∧
    Circling f t ∧ linesTaken t.stack.journal = linesTaken s.stack.journal + 1 ∧
    t.desk.source = s.desk.source := by
  obtain ⟨h, known, entries⟩ := circling.history
  obtain ⟨m, options, finds⟩ := circling.finds
  let asked : State := { s with stack := s.stack.note f .asks s.desk.waiting }
  have asking : Circling f asked := ⟨circling.inside, circling.toplevel, circling.replay,
    circling.history, circling.continuation, circling.goesOn, circling.style, circling.finds⟩
  obtain ⟨prompt, machine, read⟩ := readNext_again asking
  let v : State :=
    { prompted prompt asked with desk := { s.desk with replay := [], machine := machine } }
  let u : State := submitted f (taken f v firstAgain) firstAgain
  obtain ⟨took, desk⟩ := takeLine_again (s := v) (f := f) circling.continuation known entries
  let t : State := ⟨u.stack.note u.stack.top (.runs m.command m.remainder) u.desk.waiting,
    { u.desk with replay := u.desk.replay ++ [firstAgain], trailing := "", status := 0 }⟩
  have handled : handle Commands.perform firstAgain u = .ok none t :=
    handle_again (by rw [desk]; exact finds) (by rw [desk]; exact known) entries
      (by rw [desk]; exact circling.goesOn)
  have inside : t.stack.contains f = true := circling.inside
  have whole : handleText Commands.perform f firstAgain u = .ok true t := by
    rw [handleText_ok f handled, inside]
    rfl
  refine ⟨t, ?_, ?_, ?_, ?_⟩
  · rw [turn_apply, bind_apply, read]
    dsimp only
    rw [stepLoop, bind_apply, took]
    exact whole
  · have again : t.desk =
        { v.desk with replay := [] ++ [firstAgain], trailing := "", status := 0 } := by
      change ({ u.desk with replay := _, trailing := "", status := 0 } : Desk) = _
      rw [desk]
    refine ⟨inside, circling.toplevel, ?_, ⟨h, ?_, entries⟩, ?_, ?_, ?_, m, options, ?_⟩
    all_goals rw [again]
    · rfl
    · exact known
    · exact circling.continuation
    · exact circling.goesOn
    · exact circling.style
    · exact finds
  · have journal : t.stack.journal = s.stack.journal ++ [_] ++ [_] ++ [_] ++ [_] ++ [_] := rfl
    rw [journal]
    simp only [linesTaken_append]
    rfl
  · change u.desk.source = _
    rw [desk]

/-- The loop goes round as long as it may, and the source is not asked again. -/
theorem loop_again (circling : Circling f s) (fuel : Nat) :
    ∃ t, sessionLoop Commands.perform f fuel s = .error .outOfFuel t ∧
      linesTaken t.stack.journal = linesTaken s.stack.journal + fuel ∧
      t.desk.source = s.desk.source := by
  have goesOn {s : State} (circling : Circling f s) :
      ¬ (!s.stack.contains f || s.desk.exhausted) = true := by
    rw [circling.inside, circling.goesOn]
    decide
  induction fuel generalizing s with
  | zero =>
    refine ⟨{ s with stack := s.stack.note f .asks s.desk.waiting },
      by rw [sessionLoop_zero, if_neg (goesOn circling)], ?_, rfl⟩
    rw [Stack.note_journal, linesTaken_append]
    rfl
  | succ fuel ih =>
    obtain ⟨t, turned, again, taken, source⟩ := turn_again circling
    obtain ⟨u, looped, taken', source'⟩ := ih again
    refine ⟨u, ?_, by omega, source'.trans source⟩
    rw [sessionLoop_succ, if_neg (goesOn circling), turned]
    exact looped

end Circle

/-- In the end a loop only takes lines that the source gives. -/
def ReplayEnds (s : State) : Prop :=
  ∃ bound, ∀ fuel, let t := endState (sessionLoop Commands.perform s.stack.base fuel s)
    linesTaken t.stack.journal ≤ bound + t.desk.source.exchanges.length

/-- A shell with a history whose first entry has itself replayed. -/
def circular : State :=
  let s := fresh [firstAgain]
  { s with desk := { s.desk with
      history := some (History.ofText none 1000 (some (firstAgain ++ "\n1\n"))) } }

/-- Whether a command has the first entry replayed. -/
def findsFirst (r : Registry) : Bool :=
  match r.match? firstAgain with
  | none => false
  | some m =>
    (match m.command.body with
      | .builtin .hist => true
      | _ => false) && !m.command.keepsValue &&
    match readOptions m.command m.remainder with
    | .error _ => false
    | .ok options =>
      !options.helpRequested && options.isGiven "replay" && options.text? "replay" == some "0"

/-- Whether a turn leads into the circle, with one request so far. -/
def entersCircle (f : Session) : EStateM.Result Stop State Bool → Bool
  | .ok true t => t.stack.contains f && t.stack.top.scope.toplevel &&
      t.desk.replay == [firstAgain] &&
      t.desk.history.map (·.entries) == some [firstAgain, "1", firstAgain] &&
      t.desk.continuation == [] && !t.desk.exhausted && t.desk.promptStyle == .standard &&
      findsFirst t.desk.registry && t.desk.source.exchanges.length == 1
  | _ => false

theorem finds_of_findsFirst {r : Registry} (h : findsFirst r = true) :
    ∃ m options, Finds r m options := by
  unfold findsFirst at h
  split at h
  · cases h
  · next m found =>
    simp only [Bool.and_eq_true] at h
    obtain ⟨⟨body, plain⟩, read⟩ := h
    split at body
    · next same =>
      split at read
      · cases read
      · next options reads =>
        simp only [Bool.and_eq_true, Bool.not_eq_eq_eq_not, Bool.not_true, beq_iff_eq] at plain read
        exact ⟨m, options, found, same, plain, reads, read.1.1, read.1.2, read.2⟩
    · cases body

theorem circling_of_entersCircle {f : Session} {r : EStateM.Result Stop State Bool}
    (h : entersCircle f r = true) : ∃ t, r = .ok true t ∧ Circling f t ∧
      t.desk.source.exchanges.length = 1 := by
  unfold entersCircle at h
  split at h
  · next t =>
    simp only [Bool.and_eq_true, beq_iff_eq, Bool.not_eq_eq_eq_not, Bool.not_true] at h
    obtain ⟨⟨⟨⟨⟨⟨⟨⟨inside, toplevel⟩, replay⟩, history⟩, continuation⟩, goesOn⟩, style⟩, finds⟩, one⟩ := h
    obtain ⟨h, known, entries⟩ := Option.map_eq_some_iff.mp history
    exact ⟨t, rfl, ⟨inside, toplevel, replay, ⟨h, known, entries⟩, continuation, goesOn, style,
      finds_of_findsFirst finds⟩, one⟩
  · cases h

/-- The replay of a line may never end: the line is among those that it has replayed. -/
theorem replay_never_ends : Fresh circular ∧
    circular.desk.registry.commands = Commands.registry.commands ∧ ¬ ReplayEnds circular := by
  have enters : entersCircle circular.stack.base
      (turn Commands.perform circular.stack.base circular) = true := by decide +kernel
  obtain ⟨t, turned, circling, one⟩ := circling_of_entersCircle enters
  refine ⟨⟨rfl, rfl, rfl, rfl, rfl, rfl⟩, rfl, ?_⟩
  rintro ⟨bound, ends⟩
  obtain ⟨u, looped, taken, source⟩ := loop_again circling (bound + 2)
  have whole : sessionLoop Commands.perform circular.stack.base (bound + 3) circular =
      .error .outOfFuel u := by
    rw [sessionLoop_succ, if_neg (by decide), turned]
    exact looped
  have most := ends (bound + 3)
  rw [whole] at most
  change linesTaken u.stack.journal ≤ bound + u.desk.source.exchanges.length at most
  rw [source] at most
  omega

end NestShell.Shell

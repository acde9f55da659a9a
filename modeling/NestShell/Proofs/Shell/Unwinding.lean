import NestShell.Proofs.Commands.Bodies
import NestShell.Proofs.Commands.Catalog
import NestShell.Proofs.Shell.Fresh
import NestShell.Proofs.Shell.Leaving
import NestShell.Proofs.Shell.Loop

/-!
# Leaving sessions

With the built-in commands each open session has its loop, and the loops end in order: when a signal
has cut the stack, the loops of the sessions above return one by one without another line, each
hands on the value that the signal carries, and the loop of the session that is left on top reads
on. The value travels at the desk; what is proved here is that no step on the way disturbs it.

A run is in one of three conditions, seen from a loop that runs: nothing is left to do; loops above
or this one have still to end; or the loop is about to read on.
-/

namespace NestShell.Shell

variable {rs : List Session} {x : Leave} {s t : State}

/-- No signal is on its way; the sessions are those whose loops run. -/
structure Steady (rs : List Session) (s : State) : Prop where
  sessions : s.stack.sessions = rs
  commands : s.desk.registry.commands = Commands.registry.commands
  settled : Settled s.stack.journal

/-- A signal is on its way, and the loops that run are down to `rs`. -/
structure Unwinds (x : Leave) (rs : List Session) (s : State) : Prop where
  running : rs <+: x.sessions
  above : x.remaining ≤ rs.length
  sessions : s.stack.sessions =
    if rs.length = x.sessions.length then x.sessions.take (x.target + 1)
    else x.sessions.take x.remaining
  commands : s.desk.registry.commands = Commands.registry.commands
  unwound : s.desk.unwound = x.value
  goesOn : s.desk.exhausted = false
  journal : ∃ j e ends, s.stack.journal = j ++ e :: ends ∧ SettledBy [e] j ∧ x.ObeyedIn e ∧
    ends.map Entry.what = x.endings rs.length

/-- A signal comes from a loop above the highest one that runs. -/
structure FromAbove (x : Leave) (rs : List Session) (s : State) : Prop extends Unwinds x rs s where
  higher : rs.length < x.sessions.length

/-- What the loop that reads on has entered so far. -/
inductive Underway (f : Session) (rs : List Session) (v : Code.Value) : List Entry → Prop where
  | nothing : Underway f rs v []
  | told {told : List Entry} : Announced f rs v told → Underway f rs v told
  | interrupted {told : List Entry} {i : Entry} :
      Announced f rs v told → i.what = (f, .interrupted, rs) → Underway f rs v (told ++ [i])

/-- All loops above the session `f` have ended, and its own is about to read on. -/
structure Resumes (x : Leave) (f : Session) (rs : List Session) (p : List Entry) (s : State) :
    Prop where
  running : rs = x.sessions.take x.remaining
  top : rs.getLast? = some f
  sessions : s.stack.sessions = rs
  commands : s.desk.registry.commands = Commands.registry.commands
  goesOn : s.desk.exhausted = false
  journal : ∃ j e ends, s.stack.journal = j ++ e :: (ends ++ p) ∧ SettledBy [e] j ∧ x.ObeyedIn e ∧
    ends.map Entry.what = x.endings x.remaining
  underway : Underway f rs x.value p

/-! ## Steps that disturb nothing -/

namespace Steady

theorem note (h : Steady rs s) (f : Session) {e : Event} (n : Nat) (other : ¬ e.IsLeave) :
    Steady rs { s with stack := s.stack.note f e n } :=
  ⟨h.sessions, h.commands, h.settled.note other⟩

theorem desk (h : Steady rs s) {d : Desk} (same : d.registry.commands = s.desk.registry.commands) :
    Steady rs { s with desk := d } := ⟨h.sessions, same.trans h.commands, h.settled⟩

end Steady

instance : Indifferent (Preserves (Steady rs)) where
  desk same h := h.desk same.commands
  text _ _ h := h.desk rfl
  aside s f e n aside h := h.note f n (by cases e <;> first | exact id | cases aside)

theorem steady_note (f : Session) {e : Event} (other : ¬ e.IsLeave) :
    Stays (Preserves (Steady rs)) (ShellM.note f e) := .modify fun _ h => h.note f _ other

theorem steady_modifyDesk {f : Desk → Desk}
    (same : ∀ d, (f d).registry.commands = d.registry.commands) :
    Stays (Preserves (Steady rs)) (ShellM.modifyDesk f) := .modify fun s h => h.desk (same s.desk)

theorem Unwinds.desk (h : Unwinds x rs s) {d : Desk}
    (commands : d.registry.commands = s.desk.registry.commands)
    (unwound : d.unwound = s.desk.unwound) (exhausted : d.exhausted = s.desk.exhausted) :
    Unwinds x rs { s with desk := d } where
  running := h.running
  above := h.above
  sessions := h.sessions
  commands := commands.trans h.commands
  unwound := unwound.trans h.unwound
  goesOn := exhausted.trans h.goesOn
  journal := h.journal

instance : DeskClosed (Preserves (FromAbove x rs)) where
  desk same h := ⟨h.toUnwinds.desk same.commands same.unwound same.exhausted, h.higher⟩

theorem Resumes.desk {f : Session} {p : List Entry} (h : Resumes x f rs p s) {d : Desk}
    (commands : d.registry.commands = s.desk.registry.commands)
    (exhausted : d.exhausted = s.desk.exhausted) : Resumes x f rs p { s with desk := d } where
  running := h.running
  top := h.top
  sessions := h.sessions
  commands := commands.trans h.commands
  goesOn := exhausted.trans h.goesOn
  journal := h.journal
  underway := h.underway

instance {f : Session} {p : List Entry} : DeskClosed (Preserves (Resumes x f rs p)) where
  desk same h := h.desk same.commands same.exhausted

/-! ## The ends of loops -/

theorem Leave.remaining_lt {e : Entry} (h : x.ObeyedIn e) : x.remaining < x.sessions.length := by
  have within := h.within
  unfold Leave.remaining
  omega

/-- Where the loop that runs is the one to read on, its session is on top. -/
theorem Unwinds.resumes (h : Unwinds x rs s) {f : Session} (top : rs.getLast? = some f)
    (last : x.remaining = rs.length) : Resumes x f rs [] s where
  running := by rw [last]; exact List.prefix_iff_eq_take.mp h.running
  top := top
  sessions := by
    obtain ⟨j, e, ends, -, -, obeyed, -⟩ := h.journal
    have fewer := x.remaining_lt obeyed
    rw [h.sessions, if_neg (by omega), last]
    exact (List.prefix_iff_eq_take.mp h.running).symm
  commands := h.commands
  goesOn := h.goesOn
  journal := by
    obtain ⟨j, e, ends, journal, settled, obeyed, endings⟩ := h.journal
    exact ⟨j, e, ends, by rw [journal, List.append_nil], settled, obeyed, last ▸ endings⟩
  underway := .nothing

/-- A loop below the one that obeyed a signal, if it has to end, does not find its session on the
stack. -/
theorem FromAbove.length_lt (h : FromAbove x rs s) (more : x.remaining < rs.length) :
    s.stack.sessions.length < rs.length := by
  rw [h.sessions, if_neg (Nat.ne_of_lt h.higher)]
  exact Nat.lt_of_le_of_lt (List.length_take_le _ _) more

/-- The loop of a session that was started leaves the sessions that go on, whether the signal has
cut its session already or was to that session itself. -/
theorem Unwinds.release_sessions {f : Session} (h : Unwinds x (rs ++ [f]) s)
    (level : rs.length = f.level) (started : f.level ≠ 0)
    (more : x.remaining < (rs ++ [f]).length) :
    (s.stack.release f).sessions = x.sessions.take x.remaining := by
  obtain ⟨j, e, ends, -, -, obeyed, -⟩ := h.journal
  have within := obeyed.within
  have known : x.remaining = min (x.target + 1) (x.sessions.length - 1) := rfl
  have sessions := h.sessions
  simp only [List.length_append, List.length_singleton] at more sessions
  split at sessions
  · next all =>
    have whole : rs ++ [f] = x.sessions := h.running.eq_of_length (by simpa using all)
    by_cases itself : x.target + 1 = x.sessions.length
    · rw [itself, List.take_length, ← whole] at sessions
      rw [s.stack.release_top level started sessions, ← whole, show x.remaining = rs.length by omega,
        List.take_left]
    · rw [s.stack.release_gone, sessions, show x.remaining = x.target + 1 by omega]
      rw [sessions, List.length_take]
      omega
  · rw [s.stack.release_gone, sessions]
    rw [sessions, List.length_take]
    omega

theorem Unwinds.close {f : Session} (h : Unwinds x (rs ++ [f]) s) (level : rs.length = f.level)
    (started : f.level ≠ 0) (more : x.remaining < (rs ++ [f]).length) :
    FromAbove x rs (close f (some x.value) s) := by
  have sessions := h.release_sessions level started more
  have longer := h.running.length_le
  simp only [List.length_append, List.length_singleton] at more longer
  refine ⟨⟨(List.prefix_append _ _).trans h.running, by omega, ?_, h.commands, h.unwound, h.goesOn,
    ?_⟩, by omega⟩
  · rw [if_neg (by omega)]
    exact sessions
  · obtain ⟨j, e, ends, journal, settled, obeyed, endings⟩ := h.journal
    refine ⟨j, e, ends ++ [⟨f, .closes (some x.value), (s.stack.release f).sessions, s.desk.waiting⟩],
      ?_, settled, obeyed, ?_⟩
    · change (s.stack.release f).journal ++ _ = _
      rw [s.stack.release_journal, journal]
      simp
    · have found : x.sessions[rs.length]? = some f := by
        obtain ⟨rest, whole⟩ := h.running
        rw [← whole, List.append_assoc]
        simp
      rw [x.endings_pred found, List.map_append, endings, List.length_append]
      simp [Entry.what, sessions]

theorem Entry.no_leave_of_what {f : Session} {event : Event} {e : Entry}
    (what : e.what = (f, event, rs)) (other : ¬ event.IsLeave) : ¬ e.event.IsLeave := by
  cases what
  exact other

theorem Announced.no_leave {f : Session} {v : Code.Value} {p : List Entry} (h : Announced f rs v p) :
    ∀ e ∈ p, ¬ e.event.IsLeave := by
  cases h with
  | shown _ what => simpa using Entry.no_leave_of_what what id
  | refused => simp

theorem Underway.no_leave {f : Session} {v : Code.Value} {p : List Entry} (h : Underway f rs v p) :
    ∀ e ∈ p, ¬ e.event.IsLeave := by
  cases h with
  | nothing => simp
  | told told => exact told.no_leave
  | interrupted told i =>
    intro e member
    rcases List.mem_append.mp member with before | last
    · exact told.no_leave e before
    · exact List.mem_singleton.mp last ▸ Entry.no_leave_of_what i id

theorem Leave.no_leave_of_endings {ends : List Entry} {count : Nat}
    (endings : ends.map Entry.what = x.endings count) : ∀ e ∈ ends, ¬ e.event.IsLeave := by
  intro e member
  have listed : e.what ∈ x.endings count := endings ▸ List.mem_map_of_mem member
  obtain ⟨f, -, what⟩ := List.mem_map.mp listed
  have closes : .closes (some x.value) = e.event := congrArg (fun w => w.2.1) what
  rw [← closes]
  exact id

/-- The loop that reads on is that of the highest session that is left. -/
theorem Resumes.found {f : Session} {p : List Entry} (h : Resumes x f rs p s) :
    0 < x.remaining ∧ x.sessions[x.remaining - 1]? = some f := by
  obtain ⟨lower, whole⟩ := List.getLast?_eq_some_iff.mp h.top
  have prefixed := h.running.symm.trans whole
  obtain ⟨j, e, ends, -, -, obeyed, -⟩ := h.journal
  have fewer := x.remaining_lt obeyed
  have count := congrArg List.length prefixed
  rw [List.length_take, List.length_append, List.length_singleton] at count
  refine ⟨by omega, ?_⟩
  have last : (x.sessions.take x.remaining)[x.remaining - 1]? = some f := by
    rw [prefixed, show x.remaining - 1 = lower.length by omega]
    exact List.getElem?_concat_length
  rwa [List.getElem?_take_of_lt (by omega)] at last

/-- The journal up to where the loop reads on is settled by what the loop enters next. -/
theorem Resumes.settledBy {f : Session} {p : List Entry} (h : Resumes x f rs p s) {e : Entry}
    (more : GoesOn f rs x.value (p ++ [e])) : SettledBy [e] s.stack.journal := by
  obtain ⟨j, signal, ends, journal, settled, obeyed, endings⟩ := h.journal
  have answered : x.AnsweredBy (ends ++ p ++ [e]) :=
    ⟨ends, p ++ [e], f, List.append_assoc .., endings, h.found.1, h.found.2, h.running ▸ more⟩
  rw [journal]
  refine .append (settled.followed _) ⟨fun _ _ _ _ => ⟨x, obeyed, answered⟩, ?_⟩
  refine .of_no_leave fun d member => ?_
  rcases List.mem_append.mp member with ending | before
  · exact Leave.no_leave_of_endings endings d ending
  · exact h.underway.no_leave d before

/-- When the loop that reads on has come to its next line or its end, the signal is answered. -/
theorem Resumes.settled {f : Session} {p : List Entry} (h : Resumes x f rs p s) {e : Entry}
    (more : GoesOn f rs x.value (p ++ [e])) (other : ¬ e.event.IsLeave) :
    Settled (s.stack.journal ++ [e]) :=
  (h.settledBy more).append (.of_no_leave fun _ last => List.mem_singleton.mp last ▸ other)

/-! ## Bodies and their lines -/

/-- How a body ends that was begun in a steady state: the state is steady, or a signal from above
has come down to the loop whose line called the body, with its value as the reply. -/
def BodyEnds (rs : List Session) (c : Command) (r : EStateM.Result Stop State Reply) : Prop :=
  Ends r (fun reply t => Steady rs t ∨ ∃ x, FromAbove x rs t ∧
    (reply = .value x.value ∨ reply = .nothing ∧ c.keepsValue = false)) (Steady rs) fun _ => True

/-- The signal of a line on which a signal from above has come down: its value is dropped, or it is
what the command makes of that value. -/
def Passes (v : Code.Value) (signal : Signal) : Prop :=
  signal = .proceed none ∨ signal = (Reply.value v).toSignal true

/-- How a body's signal comes about. -/
def SignalEnds (rs : List Session) (r : EStateM.Result Stop State Signal) : Prop :=
  Ends r (fun signal t => Steady rs t ∨ ∃ x, FromAbove x rs t ∧ Passes x.value signal) (Steady rs)
    fun _ => True

/-- How a line ends, likewise. -/
def LineEnds (rs : List Session) (r : EStateM.Result Stop State Outcome) : Prop :=
  Ends r (fun o t => Steady rs t ∨ ∃ x, FromAbove x rs t ∧
    ∃ signal, o = .handled signal ∧ Passes x.value signal) (Steady rs) fun _ => True

/-- How the start of a session ends: with the value of the signal that ended the session. -/
def StartEnds (rs : List Session) (r : EStateM.Result Stop State Code.Value) : Prop :=
  Ends r (fun v t => Steady rs t ∨ ∃ x, FromAbove x rs t ∧ v = x.value) (Steady rs) fun _ => True

/-- Bodies of the built-in commands. -/
abbrev BodiesEnd (rs : List Session) (perform : Context → ShellM Reply) : Prop :=
  ∀ ctx s, ctx.command ∈ Commands.registry.commands → Steady rs s →
    BodyEnds rs ctx.command (perform ctx s)

section Line

variable {perform : Context → ShellM Reply}

theorem performIn_ends (bodies : BodiesEnd rs perform) {ctx : Context}
    (builtin : ctx.command ∈ Commands.registry.commands) (steady : Steady rs s) :
    SignalEnds rs (performIn perform ctx s) := by
  have replied : SignalEnds rs ((perform ctx >>= fun reply =>
      pure (reply.toSignal ctx.command.keepsValue) : ShellM Signal) s) := by
    refine (bodies ctx s builtin steady).bind fun reply t ends => ?_
    rcases ends with steady | ⟨x, unwinds, rfl | ⟨rfl, drops⟩⟩
    · exact .pure (.inl steady)
    · exact .pure (.inr ⟨x, unwinds, Reply.toSignal_value ctx.command.keepsValue x.value⟩)
    · rw [drops]
      exact .pure (.inr ⟨x, unwinds, .inl rfl⟩)
  refine replied.tryCatch (fun _ _ other => absurd trivial other) fun e t steady => ?_
  · have recovered : Stays (Preserves (Steady rs)) (recover ctx.command e) := inferInstance
    exact (Ends.of_stays recovered steady).mono (fun _ _ => .inl) fun _ => id

theorem runBody_ends (bodies : BodiesEnd rs perform) {ctx : Context}
    (builtin : ctx.command ∈ Commands.registry.commands) (remainder : String)
    (steady : Steady rs s) : SignalEnds rs (runBody perform ctx remainder s) := by
  refine ends_runBody (performIn_ends bodies builtin ?_) ?_ fun _ steady => steady.desk rfl
  · exact (steady.note ctx.stack.top _ id).desk rfl
  rintro signal t (steady | ⟨x, unwinds, shown⟩)
  · exact .inl (steady.desk rfl)
  · exact .inr ⟨x, ⟨unwinds.toUnwinds.desk rfl rfl rfl, unwinds.higher⟩, shown⟩

theorem line_ends (bodies : BodiesEnd rs perform) (line : String) (steady : Steady rs s) :
    LineEnds rs (dispatchWith perform line s) := by
  have told (text : String) : Stays (Preserves (Steady rs)) (ShellM.ofDesk (DeskM.puts text)) :=
    inferInstance
  refine ends_dispatchWith (fun _ => .inl steady) (fun text => ?_) fun m options found => ?_
  · exact (Ends.of_stays (told text) steady).mono (fun _ _ steady _ => .inl steady) fun _ => id
  · have builtin : m.command ∈ Commands.registry.commands :=
      steady.commands ▸ Registry.mem_of_match? found
    refine (runBody_ends bodies builtin _ steady).mono ?_ fun _ => id
    rintro signal t (steady | ⟨x, unwinds, passes⟩)
    · exact .inl steady
    · exact .inr ⟨x, unwinds, signal, rfl, passes⟩

end Line

/-! ## Handling a line -/

/-- What a loop finds after it has handled a line. -/
inductive Handled (f : Session) (rs : List Session) : Option Signal → State → Prop where
  | steady {t : State} : Steady rs t → Handled f rs none t
  /-- The line itself led to a signal that is obeyed. -/
  | left {x : Leave} {t : State} : Unwinds x rs t → x.sessions = rs →
      Handled f rs (some (.breakout x.level x.value)) t
  /-- A signal from above is for a session further below. -/
  | ends {x : Leave} {t : State} : Unwinds x rs t → x.remaining < rs.length →
      rs.length < x.sessions.length → Handled f rs none t
  | resumes {x : Leave} {p : List Entry} {t : State} : Resumes x f rs p t → Handled f rs none t

/-- Where a loop stops: in a steady state, or while it tells of the value of a signal. -/
def Stopped (f : Session) (rs : List Session) (t : State) : Prop :=
  Steady rs t ∨ ∃ x p, Resumes x f rs p t ∧ Announced f rs x.value p

variable {f : Session}

theorem Stopped.desk (h : Stopped f rs s) {d : Desk}
    (commands : d.registry.commands = s.desk.registry.commands)
    (exhausted : d.exhausted = s.desk.exhausted) : Stopped f rs { s with desk := d } := by
  rcases h with steady | ⟨x, p, resumes, told⟩
  · exact .inl (steady.desk commands)
  · exact .inr ⟨x, p, resumes.desk commands exhausted, told⟩

instance : DeskClosed (Preserves (Stopped f rs)) where
  desk same h := h.desk same.commands same.exhausted

instance steady_handleUnmatched (line : String) :
    Stays (Preserves (Steady rs)) (handleUnmatched line) := by
  unfold handleUnmatched
  have joined (texts : List String) : Stays (Preserves (Steady rs))
      (ShellM.modifyDesk fun d => { d with pending := texts }) := steady_modifyDesk fun _ => rfl
  have kept (g : Session) : Stays (Preserves (Steady rs)) (ShellM.note g .keeps) := steady_note g id
  have evaluated (g : Session) (texts : List String) :
      Stays (Preserves (Steady rs)) (ShellM.note g (.evaluates texts)) := steady_note g id
  have shown (texts : List String) : Stays (Preserves (Steady rs)) (evaluateTexts texts) :=
    inferInstance
  refine .bind inferInstance fun s => ?_
  split <;> infer_instance

/-- A signal that is obeyed is on its way from the top session. -/
theorem leftTo_unwinds {k : Stack} {level : Code.Value} (value : Code.Value)
    (sessions : s.stack.sessions = rs)
    (commands : s.desk.registry.commands = Commands.registry.commands)
    (goesOn : s.desk.exhausted = false)
    (settled : ∀ e : Entry, e.session = s.stack.top → e.event = .leaves rs level value →
      SettledBy [e] s.stack.journal)
    (left : s.stack.breakout level = .ok k) :
    ∃ x : Leave, Unwinds x rs (leftTo s k level value) ∧ x.sessions = rs ∧ x.level = level ∧
      x.value = value := by
  obtain ⟨n, known, within, rfl⟩ := s.stack.breakout_cuts left
  subst sessions
  have count := s.stack.length_sessions
  refine ⟨⟨s.stack.sessions, level, n, value⟩, {
    running := List.prefix_rfl
    above := Nat.le_trans (Nat.min_le_right _ _) (Nat.sub_le _ _)
    sessions := by
      rw [if_pos rfl]
      rfl
    commands := commands
    unwound := rfl
    goesOn := goesOn
    journal := ⟨s.stack.journal, _, [], rfl, settled _ rfl rfl, ?_, ?_⟩ }, rfl, rfl, rfl⟩
  · exact {
      event := rfl
      level := known
      within := by dsimp only; omega
      top := s.stack.getLast?_sessions
      cut := rfl }
  · rw [Leave.endings_length]
    rfl

/-- A signal to a level that no session has is told. -/
theorem leaveTo_refuses {level : Code.Value} (value : Code.Value) {e : InvalidLevel}
    (refused : s.stack.breakout level = .error e) {P : State → Prop} [DeskClosed (Preserves P)]
    (holds : P s) :
    Ends (leaveTo level value s) (fun left t => left = false ∧ P t) P fun _ => True := by
  have told : Stays (Preserves P) (ShellM.ofDesk do DeskM.puts (← e.report)) := inferInstance
  have marked : Stays (Preserves P) (setStatus 1) := inferInstance
  rw [leaveTo_error s value refused]
  refine (Ends.of_stays told holds).bind fun _ t holds => ?_
  exact (Ends.of_stays marked holds).bind fun _ u holds => .pure ⟨rfl, holds⟩

/-- A signal is obeyed, or its level is told to be none. -/
theorem obey_breakout {level value : Code.Value} (sessions : s.stack.sessions = rs)
    (commands : s.desk.registry.commands = Commands.registry.commands)
    (goesOn : s.desk.exhausted = false)
    (settled : ∀ e : Entry, e.session = s.stack.top → e.event = .leaves rs level value →
      SettledBy [e] s.stack.journal) {P : State → Prop} [DeskClosed (Preserves P)]
    (refused : (∀ n : Nat, Stack.levelOf? level = some (n : Int) → rs.length ≤ n) → P s)
    (stands : ∀ t, P t → Handled f rs none t) (stops : ∀ t, P t → Stopped f rs t) :
    Ends (obey (.handled (.breakout level value)) s) (Handled f rs) (Stopped f rs)
      fun _ => True := by
  cases left : s.stack.breakout level with
  | ok k =>
    obtain ⟨x, unwinds, whole, rfl, rfl⟩ :=
      leftTo_unwinds value sessions commands goesOn settled left
    rw [obey_signal s _ left]
    exact .ok (.left unwinds whole)
  | error e =>
    have holds := refused fun n named => sessions ▸ s.stack.length_le_of_refused left named
    refine Ends.bind ((leaveTo_refuses value left holds).stops stops) ?_
    rintro _ t ⟨rfl, holds⟩
    exact .pure (stands t holds)

/-- Where no signal is on its way, whatever a line led to is obeyed. -/
theorem obey_steady (steady : Steady rs s) (goesOn : s.desk.exhausted = false) (o : Outcome) :
    Ends (obey o s) (Handled f rs) (Stopped f rs) fun _ => True := by
  have silent : Gives (fun signal => signal = none) (pure none : ShellM (Option Signal)) :=
    gives_pure rfl
  have quiet {p : ShellM (Option Signal)} (h : Stays (Preserves (Steady rs)) p)
      (none : Gives (fun signal => signal = .none) p) :
      Ends (p s) (Handled f rs) (Stopped f rs) fun _ => True := by
    refine ((Ends.of_stays h steady).gives none).mono ?_ fun _ => .inl
    rintro _ t ⟨rfl, steady⟩
    exact .steady steady
  unfold obey
  split
  · exact quiet inferInstance inferInstance
  · exact quiet inferInstance inferInstance
  · exact quiet inferInstance inferInstance
  · next level value =>
    exact obey_breakout steady.sessions steady.commands goesOn
      (fun e _ _ => steady.settled.followed [e]) (fun _ => steady) (fun _ => .steady) fun _ => .inl
  · exact .pure (.steady steady)

theorem Resumes.stack_top {p : List Entry} (h : Resumes x f rs p s) : s.stack.top = f :=
  s.stack.top_of_last (by rw [h.sessions, h.top])

/-- The value of a signal, or the one in it, is shown by the loop that reads on. -/
theorem showValue_resumes (h : Resumes x f rs [] s) {w : Code.Value}
    (shows : (Reply.value x.value).toSignal true = .proceed (some w)) :
    let Showing (t : State) := ∃ p, Resumes x f rs p t ∧ Announced f rs x.value p
    Ends (showValue w s) (fun _ => Showing) Showing fun _ => True := by
  intro Showing
  obtain ⟨j, e, ends, journal, settled, obeyed, endings⟩ := h.journal
  let d : Entry := ⟨f, .shows w, rs, s.desk.waiting⟩
  have told : Announced f rs x.value [d] := .shown shows rfl
  unfold showValue
  refine .get_bind (Ends.bind (Q := fun _ => Resumes x f rs [d]) (.change ?_) ?_)
  · refine { h with
      journal := ⟨j, e, ends, ?_, settled, obeyed, endings⟩
      underway := .told told }
    change s.stack.journal ++ [⟨s.stack.top, _, s.stack.sessions, _⟩] = _
    rw [journal, h.stack_top, h.sessions]
    simp [d]
  · intro _ t resumes
    have made : Stays (Preserves (Resumes x f rs [d])) (ShellM.ofDesk do
        modify fun d => { d with lastResult := w }
        DeskM.ofRun (s.stack.top.scope.setLocal "_" w)
        DeskM.puts ("=> " ++ (← DeskM.rendered w))) := by
      have shown : Stays Kept (modify fun d => { d with lastResult := w } : DeskM PUnit) :=
        .modify fun _ => {}
      infer_instance
    exact (Ends.of_stays made resumes).mono (fun _ _ h => ⟨_, h, told⟩) fun _ h => ⟨_, h, told⟩

/-- The loop that reads on does with the value of the signal what the line makes of it. -/
theorem obey_resumes (h : Resumes x f rs [] s) {signal : Signal} (passes : Passes x.value signal) :
    Ends (obey (.handled signal) s) (Handled f rs) (Stopped f rs) fun _ => True := by
  rcases passes with rfl | rfl
  · exact .pure (.resumes h)
  cases made : (Reply.value x.value).toSignal true with
  | skip => exact .pure (.resumes h)
  | proceed shown =>
    cases shown with
    | none => exact .pure (.resumes h)
    | some w =>
      refine Ends.bind ((showValue_resumes h made).stops fun t ⟨p, showing⟩ => .inr ⟨x, p, showing⟩) ?_
      rintro _ t ⟨p, resumes, -⟩
      exact .pure (.resumes resumes)
  | breakout level w =>
    have same : x.value = .breakout level w := Reply.eq_breakout made
    let Refused (t : State) : Prop := Resumes x f rs [] t ∧ Announced f rs x.value []
    have closed : DeskClosed (Preserves Refused) :=
      { desk := fun same h => ⟨h.1.desk same.commands same.exhausted, h.2⟩ }
    refine obey_breakout (P := Refused) h.sessions h.commands h.goesOn (fun e top event => ?_)
      (fun none => ⟨h, .refused same none⟩) (fun t refused => .resumes refused.1)
      fun t refused => .inr ⟨x, [], refused⟩
    exact h.settledBy (.obeys same (top.trans h.stack_top) event)

/-- A loop obeys what its line led to where its session is still on top. -/
theorem obeyAt_ends {depth : Nat} {o : Outcome} (level : rs.length = depth + 1)
    (top : rs.getLast? = some f) (ends : Steady rs s ∨ ∃ x, FromAbove x rs s ∧
      ∃ signal, o = .handled signal ∧ Passes x.value signal) :
    Ends (obeyAt depth o s) (Handled f rs) (Stopped f rs) fun _ => True := by
  have count := s.stack.length_sessions
  rw [obeyAt_apply]
  rcases ends with steady | ⟨x, above, signal, rfl, passes⟩
  · by_cases done : s.stack.depth < depth || s.desk.exhausted
    · rw [if_pos done]
      exact .ok (.steady steady)
    · rw [if_neg done]
      simp only [Bool.or_eq_true, not_or, Bool.not_eq_true] at done
      exact obey_steady steady done.2 o
  · by_cases more : x.remaining < rs.length
    · have lower := above.length_lt more
      rw [if_pos (by simp only [Bool.or_eq_true, decide_eq_true_eq]; omega)]
      exact .ok (.ends above.toUnwinds more above.higher)
    · have last : x.remaining = rs.length := Nat.le_antisymm above.above (Nat.not_lt.mp more)
      have resumes := above.resumes top last
      have same := congrArg List.length resumes.sessions
      rw [if_neg (by simp only [resumes.goesOn, Bool.or_false, decide_eq_true_eq]; omega)]
      exact obey_resumes resumes passes

/-- Handling a line in the loop of a session on top. -/
theorem handle_ends {perform : Context → ShellM Reply} (bodies : BodiesEnd rs perform)
    (line : String) (steady : Steady rs s) (top : rs.getLast? = some f) :
    Ends (handle perform line s) (Handled f rs) (Stopped f rs) fun _ => True := by
  have level : rs.length = s.stack.depth + 1 := steady.sessions ▸ s.stack.length_sessions
  have dispatched : LineEnds rs (dispatchWith perform line s.begun) :=
    line_ends bodies line (steady.desk rfl)
  refine ends_handle dispatched (fun _ => .inl) fun o t n ends => obeyAt_ends level top ?_
  rcases ends with steady | ⟨x, above, shown⟩
  · exact .inl (steady.desk rfl)
  · exact .inr ⟨x, ⟨above.toUnwinds.desk rfl rfl rfl, above.higher⟩, shown⟩

/-! ## Turns of a loop -/

section Loop

variable {perform : Context → ShellM Reply} {lower : List Session}

instance steady_resetBuffers : Stays (Preserves (Steady rs)) resetBuffers :=
  steady_modifyDesk fun _ => rfl

instance steady_takeLine (g : Session) (line : String) :
    Stays (Preserves (Steady rs)) (takeLine g line) := by
  unfold takeLine
  have joined : Stays (Preserves (Steady rs)) (ShellM.modifyDesk fun d => (joinLine d line).1) :=
    steady_modifyDesk fun d => by rw [joinLine_registry]
  have recorded (text : String) : Stays (Preserves (Steady rs)) (ShellM.modifyDesk (recordLine text)) :=
    steady_modifyDesk fun d => by rw [recordLine_registry]
  have taken : Stays (Preserves (Steady rs)) (ShellM.note g (.takes line)) := steady_note g id
  have submitted (text : String) : Stays (Preserves (Steady rs)) (ShellM.note g (.submits text)) :=
    steady_note g id
  refine .bind inferInstance fun s => .bind inferInstance fun _ => .bind inferInstance fun _ => ?_
  split <;> infer_instance

/-- What a loop finds after a turn: it goes on, in a steady state or as the one to read on, or it
ends, because the input is exhausted or a signal says so. -/
inductive Turned (f : Session) (rs : List Session) : Bool → State → Prop where
  | steady {t : State} : Steady rs t → Turned f rs true t
  | resumes {x : Leave} {p : List Entry} {t : State} : Resumes x f rs p t → Turned f rs true t
  | exhausted {t : State} : Steady rs t → t.desk.exhausted = true → Turned f rs false t
  | unwinds {x : Leave} {t : State} : Unwinds x rs t → x.remaining < rs.length → Turned f rs false t

/-- A loop stays exactly if its session does and the signal was not for it. -/
theorem turned_of_handled {signal : Option Signal} (level : lower.length = f.level)
    (h : Handled f (lower ++ [f]) signal s) :
    Turned f (lower ++ [f]) (s.stack.contains f && !leavesTo f.level signal) s := by
  cases h with
  | steady steady =>
    rw [s.stack.contains_of_eq level steady.sessions]
    exact .steady steady
  | resumes resumes =>
    rw [s.stack.contains_of_eq level resumes.sessions]
    exact .resumes resumes
  | ends unwinds more higher =>
    have gone := FromAbove.length_lt ⟨unwinds, higher⟩ more
    rw [s.stack.not_contains_of_length_le]
    · exact .unwinds unwinds more
    · simp only [List.length_append, List.length_singleton] at gone
      omega
  | @left x _ unwinds whole =>
    obtain ⟨j, e, ends, -, -, obeyed, -⟩ := unwinds.journal
    have within := obeyed.within
    have known : leavesTo f.level (some (.breakout x.level x.value)) =
        (some (x.target : Int) == some (f.level : Int)) := by rw [← obeyed.level]; rfl
    have sessions := unwinds.sessions
    rw [← whole, if_pos rfl] at sessions
    have size := congrArg List.length whole
    have stops : (s.stack.contains f && !leavesTo f.level (some (.breakout x.level x.value))) = false := by
      by_cases itself : x.target = f.level
      · simp [known, itself]
      · rw [s.stack.not_contains_of_length_le, Bool.false_and]
        simp only [List.length_append, List.length_singleton] at size
        rw [sessions, List.length_take]
        omega
    rw [stops]
    exact .unwinds unwinds (whole ▸ x.remaining_lt obeyed)

theorem handleInterruptible_ends (bodies : BodiesEnd rs perform) (line : String)
    (steady : Steady rs s) (top : rs.getLast? = some f) :
    Ends (handleInterruptible perform line s)
      (fun r t => (r = none ∧ Stopped f rs t) ∨ ∃ signal, r = some signal ∧ Handled f rs signal t)
      (Stopped f rs) fun _ => True := by
  have handled : Ends ((handle perform line >>= fun signal => pure (some signal) :
      ShellM (Option (Option Signal))) s)
      (fun r t => (r = none ∧ Stopped f rs t) ∨ ∃ signal, r = some signal ∧ Handled f rs signal t)
      (Stopped f rs) fun _ => True :=
    (handle_ends bodies line steady top).bind fun signal _ handled =>
      .pure (.inr ⟨signal, rfl, handled⟩)
  refine ends_catching (fun _ => trivial) handled fun e t stopped => ?_
  have told : Stays (Preserves (Stopped f rs)) (ShellM.ofDesk (DeskM.puts "^C")) := inferInstance
  refine Ends.bind (Q := fun _ u => Stopped f rs u) (.change (stopped.desk rfl rfl)) ?_
  intro _ u stopped
  exact (Ends.of_stays told stopped).bind fun _ v stopped =>
    .pure (.inl ⟨rfl, stopped⟩)

/-- An interrupted loop reads on, also one that was telling of the value of a signal. -/
theorem Stopped.interrupted (h : Stopped f rs s) (n : Nat) :
    Turned f rs true { s with stack := s.stack.note f .interrupted n } := by
  rcases h with steady | ⟨x, p, resumes, told⟩
  · exact .steady (steady.note f n id)
  · obtain ⟨j, e, ends, journal, settled, obeyed, endings⟩ := resumes.journal
    refine .resumes (x := x) (p := p ++ [⟨f, .interrupted, rs, n⟩]) {
      running := resumes.running
      top := resumes.top
      sessions := resumes.sessions
      commands := resumes.commands
      goesOn := resumes.goesOn
      journal := ⟨j, e, ends, ?_, settled, obeyed, endings⟩
      underway := .interrupted told rfl }
    rw [s.stack.note_journal, journal, resumes.sessions]
    simp

theorem handleText_ends (bodies : BodiesEnd (lower ++ [f]) perform) (text : String)
    (level : lower.length = f.level) (steady : Steady (lower ++ [f]) s) :
    Ends (handleText perform f text s) (Turned f (lower ++ [f])) (Stopped f (lower ++ [f]))
      fun _ => True := by
  unfold handleText
  refine (handleInterruptible_ends bodies text steady List.getLast?_concat).bind ?_
  rintro _ t (⟨rfl, stopped⟩ | ⟨signal, rfl, handled⟩)
  · exact .ok (stopped.interrupted _)
  · exact .ok (turned_of_handled level handled)

theorem stepLoop_ends (bodies : BodiesEnd (lower ++ [f]) perform) (r : Reading)
    (level : lower.length = f.level) (steady : Steady (lower ++ [f]) s) :
    Ends (stepLoop perform f r s) (Turned f (lower ++ [f])) (Stopped f (lower ++ [f]))
      fun _ => True := by
  have told : Stays (Preserves (Steady (lower ++ [f]))) (ShellM.ofDesk (DeskM.puts "")) :=
    inferInstance
  cases r with
  | ended =>
    rw [stepLoop]
    let exhausted (t : State) : Prop := Steady (lower ++ [f]) t ∧ t.desk.exhausted = true
    have atEnd : DeskClosed (Preserves exhausted) := {
      desk := fun same h => ⟨h.1.desk same.commands, same.exhausted.trans h.2⟩ }
    have told : Stays (Preserves exhausted) (ShellM.ofDesk (DeskM.puts "")) := inferInstance
    refine Ends.bind (Q := fun _ t => exhausted t) (.change ⟨steady.desk rfl, rfl⟩) ?_
    intro _ t atEnd
    refine Ends.bind ((Ends.of_stays told atEnd).stops fun _ atEnd => .inl atEnd.1) ?_
    exact fun _ u atEnd => .ok (.exhausted (atEnd.1.note f _ id) atEnd.2)
  | interrupted =>
    rw [stepLoop]
    have reset : Stays (Preserves (Steady (lower ++ [f]))) resetBuffers := inferInstance
    refine Ends.stops (Q := Turned f _) (E := Steady _) ?_ fun _ => .inl
    refine (Ends.of_stays reset steady).bind fun _ t steady => ?_
    refine (Ends.of_stays told steady).bind fun _ u steady => ?_
    exact .ok (.steady (steady.note f _ id))
  | line line =>
    rw [stepLoop]
    have taken : Stays (Preserves (Steady (lower ++ [f]))) (takeLine f line) := inferInstance
    refine Ends.bind ((Ends.of_stays taken steady).stops fun _ => .inl) ?_
    intro text t steady
    cases text with
    | none => exact .ok (.steady steady)
    | some text => exact handleText_ends bodies text level steady

/-- A loop that reads on asks for a line, which answers the signal. -/
theorem Resumes.asks {p : List Entry} (h : Resumes x f rs p s) (n : Nat) :
    Steady rs { s with stack := s.stack.note f .asks n } := by
  refine ⟨h.sessions, h.commands, h.settled (e := ⟨f, .asks, s.stack.sessions, n⟩) ?_ id⟩
  rw [h.sessions]
  cases h.underway with
  | nothing => exact .reads rfl
  | told told => exact .tells told rfl
  | interrupted told i =>
    rw [List.append_assoc]
    exact .interrupted told i rfl

theorem steady_asked (ready : Steady rs s ∨ ∃ x p, Resumes x f rs p s) :
    Steady rs { s with stack := s.stack.note f .asks s.desk.waiting } := by
  rcases ready with steady | ⟨x, p, resumes⟩
  · exact steady.note f _ id
  · exact resumes.asks _

theorem turn_ends (bodies : BodiesEnd (lower ++ [f]) perform) (level : lower.length = f.level)
    (ready : Steady (lower ++ [f]) s ∨ ∃ x p, Resumes x f (lower ++ [f]) p s) :
    Ends (turn perform f s) (Turned f (lower ++ [f])) (Stopped f (lower ++ [f]))
      fun _ => True := by
  have asked := steady_asked ready
  have read : Stays (Preserves (Steady (lower ++ [f]))) readNext := inferInstance
  rw [turn_apply]
  refine ((Ends.of_stays read asked).stops fun _ => .inl).bind fun r t steady => ?_
  exact stepLoop_ends bodies r level steady

/-- The loop of a session ends with its input exhausted, or with the value of a signal that ends
it. -/
theorem sessionLoop_ends (bodies : BodiesEnd (lower ++ [f]) perform) (level : lower.length = f.level)
    (fuel : Nat) (ready : Steady (lower ++ [f]) s ∨ ∃ x p, Resumes x f (lower ++ [f]) p s) :
    Ends (sessionLoop perform f fuel s) (fun v t => Steady (lower ++ [f]) t ∨
      ∃ x, Unwinds x (lower ++ [f]) t ∧ x.remaining < (lower ++ [f]).length ∧ v = x.value)
      (Stopped f (lower ++ [f])) fun _ => True := by
  have steadily {s : State} (ready : Steady (lower ++ [f]) s ∨ ∃ x p, Resumes x f (lower ++ [f]) p s)
      (atEnd : (!s.stack.contains f || s.desk.exhausted) = true) : Steady (lower ++ [f]) s := by
    rcases ready with steady | ⟨x, p, resumes⟩
    · exact steady
    · rw [s.stack.contains_of_eq level resumes.sessions, resumes.goesOn] at atEnd
      cases atEnd
  induction fuel generalizing s with
  | zero =>
    rw [sessionLoop_zero]
    split
    · next atEnd => exact .ok (.inl (steadily ready atEnd))
    · exact .error fun _ => .inl (steady_asked ready)
  | succ fuel ih =>
    rw [sessionLoop_succ]
    split
    · next atEnd => exact .ok (.inl (steadily ready atEnd))
    · have turned := turn_ends bodies level ready
      cases h : turn perform f s with
      | error e t => exact .error (turned.stop h)
      | ok goesOn t =>
        have found := turned.value h
        cases found with
        | steady steady => exact ih (.inl steady)
        | resumes resumes => exact ih (.inr ⟨_, _, resumes⟩)
        | exhausted steady _ => exact .ok (.inl steady)
        | @unwinds x _ unwinds more => exact .ok (.inr ⟨x, unwinds, more, unwinds.unwound⟩)

end Loop

/-! ## Starting sessions -/

theorem Steady.close (level : rs.length = f.level) (started : f.level ≠ 0)
    (h : Steady (rs ++ [f]) s) (result : Option Code.Value) : Steady rs (close f result s) := by
  refine ⟨s.stack.release_top level started h.sessions, h.commands, ?_⟩
  change Settled ((s.stack.release f).journal ++ _)
  rw [s.stack.release_journal]
  exact h.settled.note id

/-- A loop that stops is closed with its session, and with it the signal of whose value it told. -/
theorem Stopped.close (level : rs.length = f.level) (started : f.level ≠ 0)
    (h : Stopped f (rs ++ [f]) s) : Steady rs (close f none s) := by
  rcases h with steady | ⟨x, p, resumes, told⟩
  · exact steady.close level started none
  · have left := s.stack.release_top level started resumes.sessions
    refine ⟨left, resumes.commands, ?_⟩
    change Settled ((s.stack.release f).journal ++ [⟨f, .closes none, (s.stack.release f).sessions, _⟩])
    rw [s.stack.release_journal, left]
    exact resumes.settled (.fails told (by simp [Entry.what])) id

/-- A session that is opened comes on top, and its loop is the next one. -/
theorem openSession_ends (receiver : Code.Value) (steady : Steady rs s) :
    Ends (openSession receiver s) (fun f t => rs.length = f.level ∧ f.level ≠ 0 ∧
      Steady (rs ++ [f]) t) (Steady rs) fun _ => True := by
  let before (t : State) : Prop := Steady rs t ∧ t.stack = s.stack
  have closed : DeskClosed (Preserves before) := {
    desk := fun same h => ⟨h.1.desk same.commands, h.2⟩ }
  have made : Stays (Preserves before)
      (ShellM.ofDesk (DeskM.ofRun (s.stack.top.scope.child receiver))) := inferInstance
  have shown : Stays (Preserves before) (ShellM.ofDesk (DeskM.viewClip receiver)) := inferInstance
  unfold openSession
  refine .get_bind ?_
  refine ((Ends.of_stays made ⟨steady, rfl⟩).stops fun _ h => h.1).bind fun scope t h => ?_
  refine ((Ends.of_stays shown h).stops fun _ h => h.1).bind fun label u ⟨steady, same⟩ => ?_
  have level : rs.length = s.stack.depth + 1 := by
    rw [← steady.sessions, same]
    rfl
  refine .ok ⟨level, Nat.succ_ne_zero _, ?_, steady.commands, steady.settled.note id⟩
  change (u.stack.push receiver scope label).sessions = _
  rw [Stack.push_sessions, steady.sessions, same]

theorem startSession_ends {perform : Context → ShellM Reply}
    (bodies : ∀ rs, BodiesEnd rs perform) (receiver : Code.Value) (steady : Steady rs s) :
    StartEnds rs (startSession perform receiver s) := by
  have opening := openSession_ends receiver steady
  rw [startSession_apply]
  cases opened : openSession receiver s with
  | error e t => exact .error (opening.stop opened)
  | ok f t =>
    obtain ⟨level, started, ready⟩ := opening.value opened
    have looped := sessionLoop_ends (bodies _) level lineFuel (.inl ready)
    dsimp only
    cases atEnd : sessionLoop perform f lineFuel t with
    | error e u => exact .error fun _ => (looped.stop atEnd trivial).close level started
    | ok v u =>
      rcases looped.value atEnd with steady | ⟨x, unwinds, more, rfl⟩
      · exact .ok (.inl (steady.close level started _))
      · exact .ok (.inr ⟨x, unwinds.close level started more, rfl⟩)

/-! ## Every nesting -/

section Bodies

open Commands

variable {back : Reentry} {ctx : Context}

theorem startAttached_ends (start : ∀ receiver s, Steady rs s → StartEnds rs (back.start receiver s))
    (receiver : Code.Value) (steady : Steady rs s) :
    StartEnds rs (startAttached back receiver s) := by
  unfold startAttached
  refine .get_bind ?_
  by_cases attached : s.desk.attached = true
  · rw [if_pos attached]
    exact start receiver s steady
  · rw [if_neg attached]
    have raised : Stays (Preserves (Steady rs)) (ShellM.ofDesk
        (DeskM.raise "RuntimeError" "no interactive shell is attached" : DeskM Code.Value)) :=
      inferInstance
    exact (Ends.of_stays raised steady).mono (fun _ _ => .inl) fun _ => id

theorem runCd_ends (start : ∀ receiver s, Steady rs s → StartEnds rs (back.start receiver s))
    (steady : Steady rs s) : BodyEnds rs ctx.command (runCd back ctx s) := by
  have read : Stays (Preserves (Steady rs)) (ShellM.ofDesk trailingText) := inferInstance
  unfold runCd
  refine (Ends.of_stays read steady).bind fun text t steady => ?_
  cases Destination.ofText text with
  | nowhere =>
    have told : Stays (Preserves (Steady rs))
        (ShellM.ofDesk (DeskM.puts "Must provide an object.")) := inferInstance
    exact (Ends.of_stays told steady).bind fun _ _ steady => .pure (.inl steady)
  | up => exact .pure (.inl steady)
  | bottom => exact .pure (.inl steady)
  | object source =>
    have evaluated : Stays (Preserves (Steady rs))
        (ShellM.ofDesk (DeskM.evaluate ctx.target source)) := inferInstance
    refine (Ends.of_stays evaluated steady).bind fun receiver u steady => ?_
    refine (startAttached_ends start receiver steady).bind ?_
    rintro v w (steady | ⟨x, above, rfl⟩)
    · exact .pure (.inl steady)
    · exact .pure (.inr ⟨x, above, .inl rfl⟩)

theorem runNest_ends (start : ∀ receiver s, Steady rs s → StartEnds rs (back.start receiver s))
    (drops : ctx.command.keepsValue = false) (steady : Steady rs s) :
    BodyEnds rs ctx.command (runNest back ctx s) := by
  unfold runNest
  refine (startAttached_ends start _ steady).bind ?_
  rintro v t (steady | ⟨x, above, -⟩)
  · exact .pure (.inl steady)
  · exact .pure (.inr ⟨x, above, .inr ⟨rfl, drops⟩⟩)

theorem runPydoc_ends (run : ∀ line s, Steady rs s → LineEnds rs (back.run line s))
    (drops : ctx.command.keepsValue = false) (steady : Steady rs s) :
    BodyEnds rs ctx.command (runPydoc back ctx s) := by
  unfold runPydoc
  refine .get_bind ((run _ s steady).bind ?_)
  rintro o t (steady | ⟨x, above, -⟩)
  · exact .pure (.inl steady)
  · exact .pure (.inr ⟨x, above, .inr ⟨rfl, drops⟩⟩)

theorem runBuiltin_ends (start : ∀ receiver s, Steady rs s → StartEnds rs (back.start receiver s))
    (run : ∀ line s, Steady rs s → LineEnds rs (back.run line s))
    (builtin : ctx.command ∈ registry.commands) (steady : Steady rs s) :
    BodyEnds rs ctx.command (bodies back ctx s) := by
  obtain ⟨b, known⟩ := builtin_of_mem builtin
  have drops (other : b ≠ .cd) : ctx.command.keepsValue = false := by
    cases keeps : ctx.command.keepsValue with
    | false => rfl
    | true =>
      have same := known.symm.trans (body_of_keepsValue builtin keeps)
      cases same
      exact absurd rfl other
  have quiet : BodyEnds rs ctx.command (ShellM.ofDesk (runAtDesk ctx b) s) := by
    have desk : Stays (Preserves (Steady rs)) (ShellM.ofDesk (runAtDesk ctx b)) :=
      stays_ofDesk_of _ (undisturbed_runAtDesk ctx b) DeskClosed.desk
    exact (Ends.of_stays desk steady).mono (fun _ _ => .inl) fun _ => id
  unfold bodies
  rw [known]
  dsimp only
  unfold runBuiltin
  split
  · exact runCd_ends start steady
  · exact runNest_ends start (drops nofun) steady
  · exact runPydoc_ends run (drops nofun) steady
  · exact quiet

end Bodies

theorem reentry_ends (fuel : Nat) :
    (∀ rs line s, Steady rs s → LineEnds rs ((reentry Commands.bodies fuel).run line s)) ∧
      ∀ rs receiver s, Steady rs s →
        StartEnds rs ((reentry Commands.bodies fuel).start receiver s) := by
  induction fuel with
  | zero => exact ⟨fun _ _ _ steady => .error fun _ => steady, fun _ _ _ steady => .error fun _ => steady⟩
  | succ fuel ih =>
    have bodies (rs : List Session) : BodiesEnd rs (Commands.bodies (reentry Commands.bodies fuel)) :=
      fun ctx s builtin steady => runBuiltin_ends (ih.2 rs) (ih.1 rs) builtin steady
    exact ⟨fun rs line _ steady => line_ends (bodies rs) line steady,
      fun rs receiver _ steady => startSession_ends bodies receiver steady⟩

theorem perform_ends (rs : List Session) : BodiesEnd rs Commands.perform :=
  fun _ _ builtin steady => runBuiltin_ends ((reentry_ends nestingFuel).2 rs)
    ((reentry_ends nestingFuel).1 rs) builtin steady

end NestShell.Shell

import NestShell.Proofs.Commands.Signals
import NestShell.Proofs.Shell.Descent
import NestShell.Proofs.Shell.Reading
import NestShell.Proofs.Shell.Unwinding

/-!
# How a run ends

The run ends with the loop of the lowest session. With the built-in commands only a line can end it
that is typed there, while there are lines: one of `exit` or `exit-all`, or `cd ..`, which names the
level of its session also where there is no other one, or a `cd` to an object, where the session on
it ends with a signal to the lowest level as its value. Otherwise the input was taken for ended, as
it is too where making a prompt raises the exception that tells so.
-/

namespace NestShell.Shell

open NestShell.Code

variable {s t u : State} {f : Session}

/-! ## The end of input -/

/-- Some loop took its input for ended where it had no prompt. -/
def Unprompted (journal : List Entry) : Prop :=
  ∃ pre d e post, journal = pre ++ d :: e :: post ∧ d.event = .asks ∧ e.event = .ends

theorem Unprompted.append {journal : List Entry} (h : Unprompted journal) (more : List Entry) :
    Unprompted (journal ++ more) := by
  obtain ⟨pre, d, e, post, rfl, asks, ends⟩ := h
  exact ⟨pre, d, e, post ++ more, by simp, asks, ends⟩

/-- Input that was taken for ended has ended, or a prompt could not be made. -/
def OutOfLines (s : State) : Prop :=
  s.desk.exhausted = true → s.desk.source.inputs = [] ∨ Unprompted s.stack.journal

namespace OutOfLines

theorem note (h : OutOfLines s) (f : Session) (e : Event) (n : Nat) :
    OutOfLines { s with stack := s.stack.note f e n } :=
  fun atEnd => (h atEnd).imp_right (·.append _)

instance : Indifferent (Preserves OutOfLines) where
  desk same h atEnd := (h (same.exhausted ▸ atEnd)).imp_left same.inputs
  text _ _ h := h
  aside _ f _ n _ h := h.note f _ n

theorem register (h : OutOfLines s) {d : Desk} (exhausted : d.exhausted = s.desk.exhausted)
    (source : d.source = s.desk.source) : OutOfLines { s with desk := d } := by
  intro atEnd
  rw [source]
  exact h (exhausted ▸ atEnd)

instance : Permissive (Preserves OutOfLines) where
  note s f _ n _ h := h.note f _ n
  register same h := h.register same.exhausted same.source
  leaves _ f _ _ _ n h := h.note f _ n
  carry _ _ h := h
  cut _ journal h atEnd := by
    rw [journal]
    exact h atEnd

end OutOfLines

section Loops

variable {perform : Context → ShellM Reply}

instance outOfLines_note (f : Session) (e : Event) :
    Stays (Preserves OutOfLines) (ShellM.note f e) := .modify fun _ h => h.note f e _

instance outOfLines_recordLine (text : String) :
    Stays (Preserves OutOfLines) (ShellM.modifyDesk (recordLine text)) :=
  .modify fun s h => h.register (recordLine_exhausted s.desk text) (recordLine_source s.desk text)

instance outOfLines_turn [∀ ctx, Stays (Preserves OutOfLines) (perform ctx)] :
    Stays (Preserves OutOfLines) (turn perform f) := by
  refine ⟨fun s h => ?_⟩
  have asked := h.note f .asks s.desk.waiting
  have read : Stays (Preserves OutOfLines) readNext := inferInstance
  rw [turn_apply, bind_apply]
  cases reading : readNext { s with stack := s.stack.note f .asks s.desk.waiting } with
  | error e u => exact read.of_error reading asked
  | ok r u =>
    by_cases atEnd : r = .ended
    · subst atEnd
      refine fun _ => ?_
      rcases readNext_ended reading with vain | same
      · exact .inl vain.inputs
      · refine .inr ⟨s.stack.journal, ⟨f, .asks, s.stack.sessions, s.desk.waiting⟩,
          ⟨f, .ends, u.stack.sessions, u.desk.waiting⟩, [], ?_, rfl, rfl⟩
        change (u.stack.note f .ends u.desk.waiting).journal = _
        rw [same, Stack.note_journal, Stack.note_journal, List.append_assoc]
        rfl
    · have stepped : Stays (Preserves OutOfLines) (stepLoop perform f r) := stays_stepLoop f atEnd
      exact stepped.within u (read.of_ok reading asked)

instance outOfLines_sessionLoop [∀ ctx, Stays (Preserves OutOfLines) (perform ctx)] (fuel : Nat) :
    Stays (Preserves OutOfLines) (sessionLoop perform f fuel) := stays_sessionLoop inferInstance fuel

instance outOfLines_startSession [∀ ctx, Stays (Preserves OutOfLines) (perform ctx)]
    (receiver : Value) : Stays (Preserves OutOfLines) (startSession perform receiver) :=
  stays_startSession (fun journal h atEnd => by rw [journal]; exact h atEnd) inferInstance
    inferInstance inferInstance receiver

end Loops

theorem outOfLines_perform (ctx : Context) :
    Stays (Preserves OutOfLines) (Commands.perform ctx) :=
  stays_reentry Commands.built_bodies DeskClosed.desk
    (fun s f => Permissive.cut (s.stack.release_prefix f) (s.stack.release_journal f))
    (fun _ _ => outOfLines_startSession) nestingFuel ctx

/-! ## Lines of the sessions above -/

/-- The loops that have asked for lines since are not that of the lowest session. -/
def AsksAbove (s t : State) : Prop :=
  ∃ new, t.stack.journal = s.stack.journal ++ new ∧
    ∀ e ∈ new, e.event = .asks → 0 < e.session.level

namespace AsksAbove

theorem of_same (same : t.stack.journal = s.stack.journal) : AsksAbove s t :=
  ⟨[], by rw [same, List.append_nil], by simp⟩

theorem trans (first : AsksAbove s t) (second : AsksAbove t u) : AsksAbove s u := by
  obtain ⟨new, journal, above⟩ := first
  obtain ⟨newer, journal', above'⟩ := second
  refine ⟨new ++ newer, by rw [journal', journal, List.append_assoc], fun e member => ?_⟩
  exact (List.mem_append.mp member).elim (above e) (above' e)

theorem note (f : Session) {e : Event} (n : Nat) (above : e = .asks → 0 < f.level) :
    AsksAbove s { s with stack := s.stack.note f e n } := by
  refine ⟨[⟨f, e, s.stack.sessions, n⟩], rfl, fun d member asks => ?_⟩
  obtain rfl := List.mem_singleton.mp member
  exact above asks

instance : Indifferent AsksAbove where
  refl _ := of_same rfl
  trans _ _ _ := trans
  desk _ := of_same rfl
  text _ _ := of_same rfl
  aside _ f _ n aside := note f n fun asks => by subst asks; cases aside

instance : Permissive AsksAbove where
  note _ f _ n handling := note f n fun asks => by subst asks; cases handling
  register _ := of_same rfl
  leaves _ f _ _ _ n := note f n nofun
  carry _ _ := of_same rfl
  cut _ journal := of_same journal

end AsksAbove

section Above

variable {perform : Context → ShellM Reply} [∀ ctx, Stays AsksAbove (perform ctx)]

theorem asksAbove_sessionLoop (above : 0 < f.level) (fuel : Nat) :
    Stays AsksAbove (sessionLoop perform f fuel) := by
  have asks : Stays AsksAbove (ShellM.note f .asks) := .modify fun _ => .note f _ fun _ => above
  have taken (g : Session) (line : String) : Stays AsksAbove (ShellM.note g (.takes line)) :=
    .modify fun _ => .note g _ (by simp)
  have recorded (text : String) : Stays AsksAbove (ShellM.modifyDesk (recordLine text)) :=
    .modify fun _ => .of_same rfl
  have step (r : Reading) : Stays AsksAbove (stepLoop perform f r) := by
    by_cases atEnd : r = .ended
    · rw [atEnd]
      exact stays_ended f (fun _ => .of_same rfl) (.modify fun _ => .note f _ (by simp))
    · exact stays_stepLoop f atEnd
  have turns : Stays AsksAbove (turn perform f) := by
    unfold turn
    infer_instance
  exact stays_sessionLoop turns fuel

/-- A session that is started is above the lowest one. -/
theorem asksAbove_startSession (receiver : Value) : Stays AsksAbove (startSession perform receiver) := by
  refine ⟨fun s => ?_⟩
  rw [startSession_apply]
  cases opened : openSession receiver s with
  | error e t => exact .of_same (congrArg Stack.journal (openSession_error opened))
  | ok g t =>
    obtain ⟨scope, label, rfl, pushed⟩ := openSession_ok opened
    have opens : AsksAbove s t := by
      have pushes : AsksAbove s { s with stack := s.stack.push receiver scope label } := .of_same rfl
      refine (pushes.trans (.note (e := .opens) (s.stack.next receiver scope label)
        t.desk.waiting (by simp))).trans ?_
      exact .of_same (congrArg Stack.journal pushed)
    have above : 0 < (s.stack.next receiver scope label).level := Nat.succ_pos _
    have looped : AsksAbove t (endState (sessionLoop perform _ lineFuel t)) :=
      (asksAbove_sessionLoop above lineFuel).within t
    have closes (result : Option Value) (u : State) :
        AsksAbove u (close (s.stack.next receiver scope label) result u) := by
      let g := s.stack.next receiver scope label
      have released : AsksAbove u { u with stack := u.stack.release g } :=
        .of_same (u.stack.release_journal g)
      exact released.trans (.note _ _ (by simp))
    dsimp only
    generalize sessionLoop perform _ lineFuel t = r at looped ⊢
    cases r with
    | ok v u => exact (opens.trans looped).trans (closes (some v) u)
    | error e u => exact (opens.trans looped).trans (closes none u)

end Above

theorem asksAbove_bodies (fuel : Nat) (ctx : Context) :
    Stays AsksAbove (Commands.bodies (reentry Commands.bodies fuel) ctx) :=
  stays_reentry Commands.built_bodies DeskClosed.desk
    (fun s f => .of_same (s.stack.release_journal f)) (fun _ _ => asksAbove_startSession) fuel ctx

/-! ## The last line -/

/-- Only a signal to a level of the stack comes back when it is obeyed. -/
theorem obey_some {o : Outcome} {signal : Signal} (done : obey o s = .ok (some signal) t) :
    ∃ level value k, o = .handled signal ∧ signal = .breakout level value ∧
      s.stack.breakout level = .ok k ∧ t = leftTo s k level value := by
  cases o with
  | noSuchCommand line =>
    obtain ⟨_, _, _, done⟩ := bind_ok done
    cases done
  | parseFailure reason command =>
    obtain ⟨_, _, _, done⟩ := bind_ok done
    obtain ⟨_, _, _, done⟩ := bind_ok done
    cases done
  | handled given =>
    cases given with
    | proceed shown =>
      cases shown with
      | none => cases done
      | some v =>
        obtain ⟨_, _, _, done⟩ := bind_ok done
        cases done
    | skip => cases done
    | breakout level value =>
      cases cut : s.stack.breakout level with
      | ok k =>
        rw [obey_signal s value cut] at done
        cases done
        exact ⟨level, value, k, rfl, rfl, cut, rfl⟩
      | error e =>
        obtain ⟨is, u, left, done⟩ := bind_ok done
        cases is with
        | false => cases done
        | true => exact absurd left ((leaveTo_refused value cut).2 u)

/-- A loop obeys a signal only if the command of its line gave it. -/
theorem handle_signal {perform : Context → ShellM Reply} {line : String} {signal : Signal}
    (done : handle perform line s = .ok (some signal) t) :
    ∃ level value u, signal = .breakout level value ∧
      dispatchWith perform line s.begun = .ok (.handled signal) u ∧
      ∃ k n, u.stack.breakout level = .ok k ∧
        t.stack = k.note u.stack.top (.leaves u.stack.sessions level value) n := by
  rw [handle_apply] at done
  cases dispatched : dispatchWith perform line s.begun with
  | error e u =>
    rw [dispatched] at done
    cases done
  | ok o u =>
    rw [dispatched] at done
    dsimp only at done
    rw [obeyAt_apply] at done
    split at done
    · cases done
    · obtain ⟨level, value, k, rfl, rfl, cut, rfl⟩ := obey_some done
      exact ⟨level, value, u, rfl, rfl, k, _, cut, rfl⟩

/-- A command that ends the shell in its lowest session, with the rest of its line. -/
def EndsShell (c : Command) (rest : String) : Prop :=
  c.name = "exit" ∨ c.name = "exit-all" ∨ c.name = "cd" ∧ Text.trim rest = ".."

/-- What is entered between the start of a command in the lowest session and the signal that leaves
that session: nothing where the command names the level itself. Otherwise it is `cd`, and a session on
the lowest one is opened and closed with the signal as its value; no line of the lowest session is
asked for meanwhile. -/
inductive Departure (base : Session) (c : Command) (rest : String) (level value : Value) :
    List Entry → Prop where
  | named : EndsShell c rest → Departure base c rest level value []
  | handed {g : Session} {opened closed : Entry} {new : List Entry} : c.name = "cd" →
      g.level = 1 → opened.what = (g, .opens, [base, g]) →
      (∀ e ∈ new, e.event = .asks → 0 < e.session.level) →
      closed.what = (g, .closes (some (.breakout level value)), [base]) →
      Departure base c rest level value (opened :: new ++ [closed])

/-- The last thing that happens is that the lowest session submits a text, whose command runs and
leaves that session, be it through a session of its own. -/
def EndsByLine (base : Session) (journal : List Entry) : Prop :=
  ∃ (r : Registry) (m : Registry.Match) (text : String) (level value : Value)
    (pre between : List Entry) (submits runs leaves : Entry),
    r.commands = Commands.registry.commands ∧ r.match? text = some m ∧
      Stack.levelOf? level = some 0 ∧ Departure base m.command m.remainder level value between ∧
      journal = pre ++ submits :: runs :: between ++ [leaves] ∧
      submits.what = (base, .submits text, [base]) ∧
      runs.what = (base, .runs m.command m.remainder, [base]) ∧
      leaves.what = (base, .leaves [base] level value, [base])

section Last

variable {base : Session}

/-- In the lowest session the level of `cd /` and those of `jump-to` are out of reach. -/
theorem endsShell_of_names {c : Command} {rest : String} {level : Value}
    (h : Commands.Names c rest 0 level) : EndsShell c rest := by
  cases h with
  | exit name => exact .inl name
  | exitAll name => exact .inr (.inl name)
  | up name rest => exact .inr (.inr ⟨name, rest⟩)
  | bottom _ _ nested => exact absurd nested (Nat.lt_irrefl 0)
  | jump _ below => exact absurd below (Nat.not_lt_zero _)

/-- Handling that was not interrupted tells what the line led to. -/
theorem handleInterruptible_some {perform : Context → ShellM Reply} {line : String}
    {signal : Option Signal} (done : handleInterruptible perform line s = .ok (some signal) t) :
    handle perform line s = .ok signal t := by
  obtain done | ⟨e, u, d, -, -, done⟩ := catching_ok done
  · obtain ⟨r, u, handled, done⟩ := bind_ok done
    cases done
    exact handled
  · obtain ⟨_, _, _, done⟩ := bind_ok done
    obtain ⟨_, _, _, done⟩ := bind_ok done
    cases done

theorem descends_perform (fuel : Nat) (ctx : Context) :
    Stays Descends (Commands.bodies (reentry Commands.bodies fuel) ctx) :=
  descends_body (fun back ctx => (Commands.built_bodies back ctx).mono fun _ _ _ => trivial) fuel ctx

/-- The lowest session stays alone across a session that is started on it. -/
theorem alone_of_descends (alone : s.stack.sessions = [base]) (below : Descends s t) :
    t.stack.sessions = [base] := by
  obtain none | one := List.prefix_concat_iff.mp (alone ▸ below.sessions : _ <+: [] ++ [base])
  · exact none
  · exact absurd (List.prefix_nil.mp one) t.stack.sessions_ne_nil

/-- What a session on the lowest one enters that ends with a signal. -/
theorem ending_of_start {c : Command} {rest : String} {fuel : Nat} {receiver lvl value : Value}
    (name : c.name = "cd") (alone : s.stack.sessions = [base])
    (started : (reentry Commands.bodies fuel).start receiver s = .ok (.breakout lvl value) t) :
    ∃ between, t.stack.journal = s.stack.journal ++ between ∧
      Departure base c rest lvl value between := by
  obtain ⟨n, started⟩ := reentry_start_ok started
  have body := descends_perform n
  have above := asksAbove_bodies n
  have below : Descends s t := (descends_startSession receiver).of_ok started
  have alone' := alone_of_descends alone below
  obtain ⟨g, w, u, opened, looped, rfl⟩ := startSession_ok _ started
  obtain ⟨scope, label, rfl, pushed⟩ := openSession_ok opened
  let g := s.stack.next receiver scope label
  have level : g.level = 1 := congrArg (· + 1) (s.stack.top_of_alone alone).2
  have open_ : (s.stack.push receiver scope label).sessions = [base, g] := by
    change s.stack.sessions ++ [g] = _
    rw [alone]
    rfl
  obtain ⟨new, journal, asks⟩ :=
    (asksAbove_sessionLoop (level ▸ Nat.one_pos : 0 < g.level) lineFuel).of_ok looped
  refine ⟨⟨g, .opens, [base, g], w.desk.waiting⟩ :: new ++
    [⟨g, .closes (some (.breakout lvl value)), [base], u.desk.waiting⟩], ?_,
    .handed name level rfl asks rfl⟩
  have last : (u.stack.release g).sessions = [base] := alone'
  change ((u.stack.release g).note g _ _).journal = _
  rw [Stack.note_journal, last, u.stack.release_journal, journal, pushed, Stack.note_journal, open_]
  simp only [List.append_assoc, List.cons_append, List.nil_append]
  rfl

/-- What is entered from the start of a line's command in the lowest session to its signal. -/
theorem ending_of_line {text : String} {lvl value : Value} (alone : s.stack.sessions = [base])
    (builtin : s.desk.registry.commands = Commands.registry.commands)
    (dispatched : dispatchWith Commands.perform text s = .ok (.handled (.breakout lvl value)) u) :
    ∃ (m : Registry.Match) (between : List Entry), s.desk.registry.match? text = some m ∧
      u.stack.journal = s.stack.journal ++
        ⟨base, .runs m.command m.remainder, [base], s.desk.waiting⟩ :: between ∧
      Departure base m.command m.remainder lvl value between := by
  obtain ⟨top, depth⟩ := s.stack.top_of_alone alone
  obtain ⟨m, found, ⟨names, same⟩ | ⟨name, receiver, v, w, entered, started, same⟩⟩ :=
    Commands.names_of_line builtin dispatched
  · refine ⟨m, [], found, ?_, .named (endsShell_of_names (depth ▸ names))⟩
    rw [same, Stack.note_journal, alone, top]
  · have alone' : v.stack.sessions = [base] := by
      rw [entered, Stack.note_sessions]
      exact alone
    obtain ⟨between, journal, ending⟩ := ending_of_start name alone' started
    refine ⟨m, between, found, ?_, ending⟩
    rw [same, journal, entered, Stack.note_journal, alone, top, List.append_assoc]
    rfl

/-- A line ends the lowest session where its command leaves that session. -/
theorem handleText_last {text : String} (alone : s.stack.sessions = [base]) (level : base.level = 0)
    (builtin : s.desk.registry.commands = Commands.registry.commands)
    (submitted : ∃ k : Stack, s.stack = k.note base (.submits text) s.desk.waiting)
    (done : handleText Commands.perform base text s = .ok false t) :
    EndsByLine base t.stack.journal := by
  unfold handleText at done
  obtain ⟨r, w, handled, done⟩ := bind_ok done
  cases r with
  | none =>
    obtain ⟨_, _, _, done⟩ := bind_ok done
    cases done
  | some signal =>
    have ran := handleInterruptible_some handled
    have body (ctx : Context) : Stays Descends (Commands.perform ctx) := descends_perform nestingFuel ctx
    have below : Descends s w := (stays_handle text).of_ok ran
    have alone' := alone_of_descends alone below
    have inside : w.stack.contains base = true :=
      w.stack.contains_of_eq (show ([] : List Session).length = _ from level.symm) alone'
    obtain ⟨_, _, look, done⟩ := bind_ok done
    cases look
    injection done with stops same
    subst same
    rw [inside, Bool.true_and, Bool.not_eq_false'] at stops
    cases signal with
    | none => cases stops
    | some signal =>
      obtain ⟨lvl, value, u, rfl, dispatched, k, n, cut, left⟩ := handle_signal ran
      obtain ⟨m, between, found, ran, ending⟩ := ending_of_line (s := s.begun) alone builtin dispatched
      obtain ⟨before, submitted⟩ := submitted
      have sessions : before.sessions = [base] := by rw [← alone, submitted, Stack.note_sessions]
      have kept : k.sessions = [base] := by rw [← alone', left, Stack.note_sessions]
      have known : u.stack.sessions = [base] := by
        have below : Descends s.begun u := (stays_dispatchWith text).of_ok dispatched
        exact alone_of_descends (s := s.begun) alone below
      have lowest : Stack.levelOf? lvl = some 0 := u.stack.breakout_alone known cut
      have took : s.begun.stack.journal =
          before.journal ++ [⟨base, .submits text, [base], s.desk.waiting⟩] := by
        change s.stack.journal = _
        rw [submitted, Stack.note_journal, sessions]
      refine ⟨s.desk.registry, m, text, lvl, value, before.journal, between,
        ⟨base, .submits text, [base], s.desk.waiting⟩,
        ⟨base, .runs m.command m.remainder, [base], s.desk.waiting⟩,
        ⟨base, .leaves [base] lvl value, [base], n⟩, builtin, found, lowest, ending, ?_, rfl, rfl, rfl⟩
      rw [left, Stack.note_journal, u.stack.breakout_journal cut, ran, took, known,
        (u.stack.top_of_alone known).1, kept]
      simp only [List.append_assoc, List.cons_append, List.nil_append]
      rfl

/-- A turn ends the lowest session where the input is taken for ended, or by its line. -/
theorem turn_last (alone : s.stack.sessions = [base]) (level : base.level = 0)
    (builtin : s.desk.registry.commands = Commands.registry.commands)
    (done : turn Commands.perform base s = .ok false t) :
    t.desk.exhausted = true ∨ EndsByLine base t.stack.journal := by
  rw [turn_apply] at done
  obtain ⟨r, u, read, done⟩ := bind_ok done
  have same : SameSessions { s with stack := s.stack.note base .asks s.desk.waiting } u :=
    stays_readNext.of_ok read
  cases r with
  | ended =>
    cases done
    exact .inl rfl
  | interrupted =>
    obtain ⟨_, _, _, done⟩ := bind_ok done
    obtain ⟨_, _, _, done⟩ := bind_ok done
    obtain ⟨_, _, _, done⟩ := bind_ok done
    cases done
  | line line =>
    obtain ⟨text, v, took, done⟩ := bind_ok done
    cases text with
    | none => cases done
    | some text =>
      have ends := takeLine_some took
      have alone' : v.stack.sessions = [base] := by
        rw [ends]
        exact same.1.trans alone
      have builtin' : v.desk.registry.commands = Commands.registry.commands := by
        rw [ends]
        unfold submitted taken
        dsimp only
        rw [recordLine_registry, joinLine_registry]
        exact same.2.trans builtin
      have last : v.stack = (taken base u line).stack.note base (.submits text) v.desk.waiting := by
        rw [ends]
        exact submitted_stack base _ text
      exact .inr (handleText_last alone' level builtin' ⟨_, last⟩ done)

/-- The loop of the lowest session goes on until it takes its input for ended or a line ends it. -/
theorem sessionLoop_last (level : base.level = 0) {fuel : Nat} {v : Value}
    (ready : Steady [base] s ∨ ∃ x p, Resumes x base [base] p s)
    (done : sessionLoop Commands.perform base fuel s = .ok v t) :
    t.desk.exhausted = true ∨ EndsByLine base t.stack.journal := by
  have level' : ([] : List Session).length = base.level := level.symm
  have alone {s : State} (ready : Steady [base] s ∨ ∃ x p, Resumes x base [base] p s) :
      s.stack.sessions = [base] ∧ s.desk.registry.commands = Commands.registry.commands := by
    rcases ready with steady | ⟨x, p, resumes⟩
    · exact ⟨steady.sessions, steady.commands⟩
    · exact ⟨resumes.sessions, resumes.commands⟩
  induction fuel generalizing s with
  | zero =>
    rw [sessionLoop_zero, s.stack.contains_of_eq level' (alone ready).1] at done
    split at done
    · next atEnd =>
      cases done
      exact .inl atEnd
    · cases done
  | succ fuel ih =>
    rw [sessionLoop_succ, s.stack.contains_of_eq level' (alone ready).1] at done
    split at done
    · next atEnd =>
      cases done
      exact .inl atEnd
    · have turned := turn_ends (perform_ends _) level' ready
      cases h : turn Commands.perform base s with
      | error e u =>
        rw [h] at done
        cases done
      | ok goesOn u =>
        rw [h] at done
        cases goesOn with
        | false =>
          cases done
          exact turn_last (alone ready).1 level (alone ready).2 h
        | true =>
          have found := turned.value h
          cases found with
          | steady steady => exact ih (.inl steady) done
          | resumes resumes => exact ih (.inr ⟨_, _, resumes⟩) done

/-- A signal to the session of the line is obeyed. -/
theorem obeyAt_own {value : Value} (goesOn : s.desk.exhausted = false) :
    obeyAt s.stack.depth (.handled (.breakout (.int s.stack.depth) value)) s =
      .ok (some (.breakout (.int s.stack.depth) value))
        (leftTo s s.stack (.int s.stack.depth) value) := by
  rw [obeyAt_apply, goesOn, Bool.or_false, if_neg (by simp)]
  exact obey_signal s value s.stack.breakout_own

/-- Where `cd` is to go up, the loop of the session ends, be it the lowest one. -/
theorem handleText_up {text : String} {m : Registry.Match} {options : Options.Parsed}
    (goesOn : s.desk.exhausted = false) (top : s.stack.top.level = s.stack.depth)
    (found : s.desk.registry.match? text = some m) (body : m.command.body = .builtin .cd)
    (up : Text.trim m.remainder = "..") (read : readOptions m.command m.remainder = .ok options)
    (asked : options.helpRequested = false) :
    ∃ t, handleText Commands.perform s.stack.top text s = .ok false t := by
  let v : State := ⟨s.stack.note s.stack.top (.runs m.command m.remainder) s.desk.waiting,
    { s.begun.desk with trailing := "" }⟩
  let t : State := leftTo v v.stack (.int s.stack.depth) .none
  have dispatched : dispatchWith Commands.perform text s.begun =
      .ok (.handled (.breakout (.int s.stack.depth) .none)) v :=
    Commands.line_up (s := s.begun) found body up read asked
  have same : s.marked v = v := State.marked_same rfl
  have handled : handle Commands.perform text s =
      .ok (some (.breakout (.int s.stack.depth) .none)) t := by
    rw [handle_apply, dispatched]
    dsimp only
    rw [same]
    exact obeyAt_own (s := v) goesOn
  have own : leavesTo s.stack.top.level (some (.breakout (.int s.stack.depth) .none)) = true := by
    rw [top]
    exact beq_self_eq_true _
  refine ⟨t, ?_⟩
  rw [handleText_ok _ handled, own, Bool.not_true, Bool.and_false]

end Last

/-- The text has `cd` go up. -/
def GoesUp (r : Registry) (text : String) : Prop :=
  ∃ m options, r.match? text = some m ∧ m.command.name = "cd" ∧ Text.trim m.remainder = ".." ∧
    readOptions m.command m.remainder = .ok options ∧ options.helpRequested = false

/-- A run that returns before its input has ended was ended by the last line of the lowest session,
one of `exit`, `exit-all` or `cd ..`, or a `cd` to an object whose session ended with a signal to the
lowest level, unless a prompt could not be made. And `cd ..` always ends it there:
unlike `cd /` it does not ask whether there is a session to go up to. -/
theorem run_ends_by_line (unread : Fresh s)
    (builtin : s.desk.registry.commands = Commands.registry.commands) :
    (∀ v t, run s = .ok v t → t.desk.source.inputs ≠ [] →
      EndsByLine s.stack.base t.stack.journal ∨ Unprompted t.stack.journal) ∧
    ∀ u text, u.stack.sessions = [s.stack.base] → u.desk.exhausted = false →
      u.desk.registry.commands = Commands.registry.commands → GoesUp u.desk.registry text →
        ∃ t, handleText Commands.perform s.stack.base text u = .ok false t := by
  constructor
  · intro v t done lines
    have steady : Steady [s.stack.base] s :=
      ⟨unread.sessions, builtin, by rw [unread.journal]; trivial⟩
    have done : sessionLoop Commands.perform s.stack.base lineFuel s = .ok v t := done
    rcases sessionLoop_last unread.level (.inl steady) done with atEnd | line
    · have before : OutOfLines s := fun atEnd => absurd atEnd (by rw [unread.goesOn]; decide)
      have body := outOfLines_perform
      have loop : Stays (Preserves OutOfLines)
          (sessionLoop Commands.perform s.stack.base lineFuel) := inferInstance
      rcases loop.of_ok done before atEnd with none | unprompted
      · exact absurd none lines
      · exact .inr unprompted
    · exact .inl line
  · rintro u text alone goesOn commands ⟨m, options, found, name, up, read, asked⟩
    have member : m.command ∈ Commands.registry.commands :=
      commands ▸ Registry.mem_of_match? found
    obtain ⟨top, depth⟩ := u.stack.top_of_alone alone
    have level : u.stack.top.level = u.stack.depth := by
      rw [top, depth]
      exact unread.level
    rw [← top]
    exact handleText_up goesOn level found (Commands.body_of_name member (congrArg some name.symm)) up read asked

/-- Whether a run returned with lines left after events of one kind only. -/
def returnsAfter (holds : Event → Bool) : EStateM.Result Stop State Value → Bool
  | .ok _ t => !t.desk.source.inputs.isEmpty && t.stack.journal.all fun e => holds e.event
  | .error .. => false

theorem ok_of_returnsAfter {holds : Event → Bool} {r : EStateM.Result Stop State Value}
    (h : returnsAfter holds r = true) : ∃ v t, r = .ok v t ∧ t.desk.source.inputs ≠ [] ∧
      ∀ e ∈ t.stack.journal, holds e.event = true := by
  cases r with
  | error e t => cases h
  | ok v t =>
    simp only [returnsAfter, Bool.and_eq_true, Bool.not_eq_true', List.isEmpty_eq_false_iff] at h
    exact ⟨v, t, rfl, h.1, List.all_eq_true.mp h.2⟩

def Event.endsLoop : Event → Bool
  | .ends => true
  | _ => false

/-- A run that `exit` ends before the last line. -/
theorem exit_ends_run : ∃ v t, run (fresh ["exit 7", "5"]) = .ok v t ∧
    EndsByLine (fresh ["exit 7", "5"]).stack.base t.stack.journal := by
  have facts : returnsAfter (fun e => !e.endsLoop) (run (fresh ["exit 7", "5"])) = true := by
    decide +kernel
  obtain ⟨v, t, ran, left, events⟩ := ok_of_returnsAfter facts
  have ends := (run_ends_by_line (fresh_unread ["exit 7", "5"]) (fresh_commands _)).1
  refine ⟨v, t, ran, (ends v t ran left).resolve_right ?_⟩
  rintro ⟨pre, d, e, post, journal, -, atEnd⟩
  have other := events e (by simp [journal])
  rw [atEnd] at other
  cases other

/-- Whether the event runs no command of another name. -/
def Event.runsOnly (name : String) : Event → Bool
  | .runs c _ => c.name == name
  | _ => true

/-- Where the lowest session goes up the shell ends: a line is left, and no command has run that is
to end it. -/
theorem up_ends_shell : ∃ v t, run (fresh ["cd ..", "1 + 1"]) = .ok v t ∧
    t.desk.source.inputs ≠ [] ∧ ∀ e ∈ t.stack.journal, ∀ c rest, e.event = .runs c rest →
      c.name = "cd" := by
  have facts : returnsAfter (Event.runsOnly "cd") (run (fresh ["cd ..", "1 + 1"])) = true := by
    decide +kernel
  obtain ⟨v, t, ran, left, events⟩ := ok_of_returnsAfter facts
  refine ⟨v, t, ran, left, fun e member c rest runs => ?_⟩
  have name := events e member
  rw [runs] at name
  exact eq_of_beq name

end NestShell.Shell

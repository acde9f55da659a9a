import NestShell.Proofs.Shell.Unwinding

/-!
# Signals in a whole run

In a run with the built-in commands every signal that is obeyed is answered: what follows it in the
journal are the ends of the loops that it leaves, and then the loop below them goes on. The run
itself is over where the signal left the lowest session, or where showing its value stopped it.
-/

namespace NestShell.Shell

open NestShell.Code

/-- How a run answers a signal. -/
inductive Leave.Carried (x : Leave) (base : Session) :
    EStateM.Result Stop State Value → List Entry → Prop where
  | answered {r : EStateM.Result Stop State Value} {post : List Entry} :
      x.AnsweredBy post → x.Carried base r post
  /-- The signal was to the lowest session itself, whose loop ends with the run. -/
  | atEnd {t : State} :
      x.sessions = [base] → t.stack.sessions = [base] → x.Carried base (.ok x.value t) []
  /-- The lowest loop was to go on, and telling of the value stopped the run. -/
  | fails {e : Stop} {t : State} {ends told : List Entry} :
      x.remaining = 1 → ends.map Entry.what = x.endings 1 → Announced base [base] x.value told →
        x.Carried base (.error e t) (ends ++ told)

/-- A signal at the end of a journal, or before its end. -/
theorem split_at_leave {j tail pre post : List Entry} {e d : Entry}
    (split : j ++ d :: tail = pre ++ e :: post) (quiet : ∀ c ∈ tail, ¬ c.event.IsLeave)
    (leaves : e.event.IsLeave) :
    (∃ mid, j = pre ++ e :: mid ∧ post = mid ++ d :: tail) ∨ e = d ∧ post = tail := by
  rcases List.append_eq_append_iff.mp split with ⟨more, rfl, rest⟩ | ⟨mid, rfl, rest⟩
  · cases more with
    | nil =>
      obtain ⟨rfl, rfl⟩ := List.cons.inj rest
      exact .inr ⟨rfl, rfl⟩
    | cons c more =>
      obtain ⟨rfl, rfl⟩ := List.cons.inj rest
      exact absurd leaves (quiet e (by simp))
  · cases mid with
    | nil =>
      obtain ⟨rfl, rfl⟩ := List.cons.inj rest
      exact .inr ⟨rfl, rfl⟩
    | cons c mid =>
      obtain ⟨rfl, rfl⟩ := List.cons.inj rest
      exact .inl ⟨mid, rfl, rfl⟩

section Run

variable {s : State}

/-- The loop of the lowest session ends in a steady state, or with the value of a signal to that
session itself. -/
theorem run_ends (unread : Fresh s)
    (builtin : s.desk.registry.commands = Commands.registry.commands) :
    Ends (run s) (fun v t => Steady [s.stack.base] t ∨
      ∃ x, Unwinds x [s.stack.base] t ∧ x.sessions = [s.stack.base] ∧ v = x.value)
      (Stopped s.stack.base [s.stack.base]) fun _ => True := by
  have steady : Steady [s.stack.base] s :=
    ⟨unread.sessions, builtin, by rw [unread.journal]; trivial⟩
  have level : ([] : List Session).length = s.stack.base.level := unread.level.symm
  have loop : Ends (run s) _ _ fun _ => True := sessionLoop_ends (perform_ends _) level lineFuel (.inl steady)
  refine loop.mono ?_ fun _ => id
  rintro v t (steady | ⟨x, unwinds, more, carried⟩)
  · exact .inl steady
  · obtain ⟨j, d, ends, whole, before, obeyed, endings⟩ := unwinds.journal
    have within := obeyed.within
    have count : x.sessions.length = 1 := by
      simp only [Leave.remaining, List.nil_append, List.length_singleton] at more
      omega
    exact .inr ⟨x, unwinds, (unwinds.running.eq_of_length (by simpa using count.symm)).symm, carried⟩

variable {pre post : List Entry} {e : Entry} {left : List Session} {level value : Value}

/-- A signal to the lowest session is the last thing that happens. -/
theorem Unwinds.carried {x : Leave} {base : Session} {t : State} (unwinds : Unwinds x [base] t)
    (only : x.sessions = [base]) (journal : t.stack.journal = pre ++ e :: post)
    (leaves : e.event = .leaves left level value) :
    ∃ y : Leave, y.ObeyedIn e ∧ y.Carried base (.ok x.value t) post := by
  obtain ⟨j, d, ends, whole, settled, obeyed, endings⟩ := unwinds.journal
  have none : ends = [] := by
    have empty := x.endings_length
    rw [only] at empty
    exact List.map_eq_nil_iff.mp (endings.trans empty)
  have kept : t.stack.sessions = [base] := by
    have sessions := unwinds.sessions
    rw [only, if_pos rfl] at sessions
    simpa using sessions
  subst none
  rcases split_at_leave (whole.symm.trans journal) (by simp) (leaves ▸ trivial) with
    ⟨mid, rfl, rfl⟩ | ⟨rfl, rfl⟩
  · obtain ⟨y, obeyed, answered⟩ := settled.answered rfl leaves
    exact ⟨y, obeyed, .answered answered⟩
  · exact ⟨x, obeyed, .atEnd only kept⟩

/-- Where telling of the value of a signal stops the run, the loops above have ended. -/
theorem Resumes.carried {x : Leave} {base : Session} {told : List Entry} {t : State}
    (resumes : Resumes x base [base] told t) (tells : Announced base [base] x.value told)
    (journal : t.stack.journal = pre ++ e :: post)
    (leaves : e.event = .leaves left level value) (stop : Stop) :
    ∃ y : Leave, y.ObeyedIn e ∧ y.Carried base (.error stop t) post := by
  obtain ⟨j, c, ends, whole, settled, obeyed, endings⟩ := resumes.journal
  have one : x.remaining = 1 := by
    have fewer := x.remaining_lt obeyed
    have size := congrArg List.length resumes.running
    simp only [List.length_singleton, List.length_take] at size
    omega
  have quiet : ∀ b ∈ ends ++ told, ¬ b.event.IsLeave := by
    intro b member
    rcases List.mem_append.mp member with ending | last
    · exact Leave.no_leave_of_endings endings b ending
    · exact tells.no_leave b last
  rcases split_at_leave (whole.symm.trans journal) quiet (leaves ▸ trivial) with
    ⟨mid, rfl, rfl⟩ | ⟨rfl, rfl⟩
  · obtain ⟨y, obeyed, answered⟩ := settled.answered rfl leaves
    refine ⟨y, obeyed, .answered ?_⟩
    rw [List.append_cons]
    exact answered.append _
  · exact ⟨x, obeyed, .fails one (one ▸ endings) tells⟩

end Run

/-! ## A value that stops the run -/

/-- After a signal to a session below the top one, some loop asks for another line. -/
def ReadsOn (journal : List Entry) : Prop :=
  ∀ pre e post left level value (target : Nat), journal = pre ++ e :: post →
    e.event = .leaves left level value → Stack.levelOf? level = some (target : Int) →
    target + 1 < left.length → ∃ d ∈ post, d.event = .asks

/-- Objects of a class whose instances end the program where they are to be shown, the first of them
as an attribute of another object. -/
def stubbornMachine : Machine where
  heap := #[
    .function {
      name := "stop", qualifiedName := "X.stop", moduleName := .str "shapes", file := "shapes.py"
      firstLine := 2, lastLine := 3, doc := .none
      params := [(.regular, "self"), (.regular, "e")], defaults := [("e", .ref 3)]
      body := [.raise 3 (some (.name 3 "e")) none]
      globals := 4, closure := [], locals := ["self", "e"], owner := some 1, attrs := {} },
    .cls {
      name := "X", qualifiedName := "X", bases := [.type "object"], order := [.type "object"]
      members := ⟨[("__repr__", .ref 0)]⟩, file := "shapes.py", firstLine := 1, lastLine := 3 },
    .record (.ref 1) {},
    .error { cls := .type "SystemExit", args := [], attrs := {}, origin := none },
    .names {} none,
    .record (.ref 6) ⟨[("x", .ref 2)]⟩,
    .cls {
      name := "Y", qualifiedName := "Y", bases := [.type "object"], order := [.type "object"]
      members := {}, file := "shapes.py", firstLine := 4, lastLine := 5 }]

/-- A session on an object is left with a value that cannot be shown. -/
def stubborn : State := freshOn stubbornMachine [("y", .ref 5)] ["cd y", "exit-all x", "5"]

/-- Whether the event leaves so many sessions for the lowest one. -/
def Event.leavesForLowest (n : Nat) : Event → Bool
  | .leaves left level _ => Stack.levelOf? level == some 0 && left.length == n
  | _ => false

def Event.asksForLine : Event → Bool
  | .asks => true
  | _ => false

theorem not_readsOn {journal : List Entry} {n : Nat}
    (signal : (journal[n]?.any fun e => e.event.leavesForLowest 2) = true)
    (silent : ((journal.drop (n + 1)).all fun e => !e.event.asksForLine) = true) :
    ¬ ReadsOn journal := by
  intro reads
  obtain ⟨e, found, leave⟩ := (Option.any_eq_true _ _).mp signal
  obtain ⟨inside, rfl⟩ := List.getElem?_eq_some_iff.mp found
  have split : journal = journal.take n ++ journal[n] :: journal.drop (n + 1) := by
    rw [← List.drop_eq_getElem_cons inside, List.take_append_drop]
  unfold Event.leavesForLowest at leave
  split at leave
  · next left level value leaves =>
    simp only [Bool.and_eq_true, beq_iff_eq] at leave
    obtain ⟨d, member, asks⟩ :=
      reads _ _ _ left level value 0 split leaves leave.1 (by rw [leave.2]; decide)
    have other := List.all_eq_true.mp silent d member
    rw [asks] at other
    cases other
  · cases leave

/-- A run of a fresh shell with the built-in commands ends with lines unread after a signal to a
session below. -/
structure EndsUnread (s : State) : Prop where
  fresh : Fresh s
  builtin : s.desk.registry.commands = Commands.registry.commands
  finished : finished (run s) = true
  silent : ¬ ReadsOn (endState (run s)).stack.journal

/-- What is to be computed of such a run: the eleventh entry is the signal. -/
def endsAfterSignal (r : EStateM.Result Stop State Value) : Bool :=
  let journal := (endState r).stack.journal
  finished r && (journal[11]?.any fun e => e.event.leavesForLowest 2) &&
    (journal.drop 12).all fun e => !e.event.asksForLine

theorem endsUnread {m : Machine} {names : List (String × Value)} {lines : List String}
    (ends : endsAfterSignal (run (freshOn m names lines)) = true) :
    EndsUnread (freshOn m names lines) := by
  unfold endsAfterSignal at ends
  simp only [Bool.and_eq_true] at ends
  obtain ⟨⟨ended, signal⟩, silent⟩ := ends
  exact ⟨freshOn_unread .., freshOn_commands .., ended, not_readsOn signal silent⟩

/-- A session on an object is left with a value that is a signal. -/
def handing : State :=
  freshOn {
    heap := #[.record (.ref 1) ⟨[("x", .breakout (.int 0) (.int 5))]⟩,
      .cls {
        name := "Y", qualifiedName := "Y", bases := [.type "object"], order := [.type "object"]
        members := {}, file := "shapes.py", firstLine := 1, lastLine := 2 }] }
    [("y", .ref 0)] ["cd y", "exit-all x", "5"]

end NestShell.Shell

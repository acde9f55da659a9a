import NestShell.Proofs.Shell.Stack
import NestShell.Shell.Signal

/-!
# What the journal says when sessions are left

A signal that a session obeys leaves the sessions above its level, or, where it names the level of
that session itself, that session alone. What comes next in the journal is then settled: the loops
of the sessions that are left end one after another, the highest first and each with the value that
the signal carries, and the loop below them reads on. That loop may show the value first, and only
showing it can keep the loop from reading, or the value itself: one that is a signal is obeyed in
its turn.
-/

namespace NestShell.Shell

open NestShell.Code

/-- An entry without the lines that wait. -/
def Entry.what (e : Entry) : Session × Event × List Session := (e.session, e.event, e.sessions)

/-- A signal that the top one of some sessions obeyed. -/
structure Leave where
  sessions : List Session
  level : Value
  target : Nat
  value : Value

namespace Leave

variable (x : Leave)

/-- The number of the sessions whose loops go on: a signal to the top level itself ends one loop. -/
def remaining : Nat := min (x.target + 1) (x.sessions.length - 1)

/-- The entry of a signal that is obeyed. -/
structure ObeyedIn (e : Entry) : Prop where
  event : e.event = .leaves x.sessions x.level x.value
  level : Stack.levelOf? x.level = some (x.target : Int)
  within : x.target < x.sessions.length
  top : x.sessions.getLast? = some e.session
  cut : e.sessions = x.sessions.take (x.target + 1)

/-- The ends of the loops down to a number of sessions. -/
def endings (count : Nat) : List (Session × Event × List Session) :=
  (x.sessions.drop count).reverse.map fun f =>
    (f, .closes (some x.value), x.sessions.take x.remaining)

theorem endings_length : x.endings x.sessions.length = [] := by simp [endings]

theorem endings_pred {count : Nat} {f : Session} (found : x.sessions[count]? = some f) :
    x.endings count = x.endings (count + 1) ++
      [(f, .closes (some x.value), x.sessions.take x.remaining)] := by
  obtain ⟨inside, rfl⟩ := List.getElem?_eq_some_iff.mp found
  unfold endings
  rw [List.drop_eq_getElem_cons inside, List.reverse_cons, List.map_append]
  rfl

end Leave

/-- What a loop enters to tell of a value that it was given: it shows the value, or the value is a
signal to a level that no session has, which is told without an entry. -/
inductive Announced (f : Session) (sessions : List Session) (v : Value) : List Entry → Prop where
  | shown {w : Value} {d : Entry} : (Reply.value v).toSignal true = .proceed (some w) →
      d.what = (f, .shows w, sessions) → Announced f sessions v [d]
  | refused {level w : Value} : v = .breakout level w →
      (∀ n : Nat, Stack.levelOf? level = some (n : Int) → sessions.length ≤ n) →
      Announced f sessions v []

/-- What a loop enters, once the sessions above it are over, up to its next line or its own end. -/
inductive GoesOn (f : Session) (sessions : List Session) (v : Value) : List Entry → Prop where
  | reads {e : Entry} {more : List Entry} :
      e.what = (f, .asks, sessions) → GoesOn f sessions v (e :: more)
  | tells {told more : List Entry} {e : Entry} :
      Announced f sessions v told → e.what = (f, .asks, sessions) → GoesOn f sessions v (told ++ e :: more)
  | interrupted {told more : List Entry} {i e : Entry} :
      Announced f sessions v told → i.what = (f, .interrupted, sessions) →
        e.what = (f, .asks, sessions) → GoesOn f sessions v (told ++ i :: e :: more)
  /-- Telling of the value stopped, and the loop with it. -/
  | fails {told more : List Entry} {e : Entry} :
      Announced f sessions v told → e.what = (f, .closes none, sessions.dropLast) →
        GoesOn f sessions v (told ++ e :: more)
  /-- The value is a signal to a level of the sessions, and the loop obeys it. -/
  | obeys {level w : Value} {e : Entry} {more : List Entry} : v = .breakout level w →
      e.session = f → e.event = .leaves sessions level w → GoesOn f sessions v (e :: more)

theorem GoesOn.append {f : Session} {sessions : List Session} {v : Value} {es : List Entry}
    (h : GoesOn f sessions v es) (more : List Entry) : GoesOn f sessions v (es ++ more) := by
  cases h with
  | reads e => exact .reads e
  | tells told e =>
    rw [List.append_assoc]
    exact .tells told e
  | interrupted told i e =>
    rw [List.append_assoc]
    exact .interrupted told i e
  | fails told e =>
    rw [List.append_assoc]
    exact .fails told e
  | obeys signal session event => exact .obeys signal session event

/-- Entries after a signal that was obeyed: the loops above end with its value, and then the one
below them goes on. -/
def Leave.AnsweredBy (x : Leave) (es : List Entry) : Prop :=
  ∃ ends rest f, es = ends ++ rest ∧ ends.map Entry.what = x.endings x.remaining ∧
    0 < x.remaining ∧ x.sessions[x.remaining - 1]? = some f ∧
    GoesOn f (x.sessions.take x.remaining) x.value rest

theorem Leave.AnsweredBy.append {x : Leave} {es : List Entry} (h : x.AnsweredBy es)
    (more : List Entry) : x.AnsweredBy (es ++ more) := by
  obtain ⟨ends, rest, f, rfl, endings, above, below, goesOn⟩ := h
  exact ⟨ends, rest ++ more, f, List.append_assoc .., endings, above, below, goesOn.append more⟩

/-- Every signal in a journal that was obeyed is answered by what follows it there and by what comes
next. -/
def SettledBy (next : List Entry) : List Entry → Prop
  | [] => True
  | e :: post =>
    (∀ left level value, e.event = .leaves left level value →
      ∃ x : Leave, x.ObeyedIn e ∧ x.AnsweredBy (post ++ next)) ∧ SettledBy next post

/-- Every signal in a journal that was obeyed is answered there. -/
abbrev Settled : List Entry → Prop := SettledBy []

/-- The event is a signal that is obeyed. -/
def Event.IsLeave : Event → Prop
  | .leaves .. => True
  | _ => False

instance : DecidablePred Event.IsLeave := fun e => by cases e <;> unfold Event.IsLeave <;> infer_instance

theorem Event.IsLeave.signal {e : Event} (h : e.IsLeave) :
    ∃ left level value, e = .leaves left level value := by
  cases e with
  | leaves left level value => exact ⟨left, level, value, rfl⟩
  | _ => exact absurd h id

namespace SettledBy

variable {next j es : List Entry}

theorem append (hj : SettledBy (es ++ next) j) (hes : SettledBy next es) :
    SettledBy next (j ++ es) := by
  induction j with
  | nil => exact hes
  | cons e post ih =>
    refine ⟨fun left level value leaves => ?_, ih hj.2⟩
    change ∃ x : Leave, x.ObeyedIn e ∧ x.AnsweredBy (post ++ es ++ next)
    rw [List.append_assoc]
    exact hj.1 left level value leaves

theorem followed (hj : SettledBy next j) (more : List Entry) : SettledBy (next ++ more) j := by
  induction j with
  | nil => trivial
  | cons e post ih =>
    refine ⟨fun left level value leaves => ?_, ih hj.2⟩
    obtain ⟨x, obeyed, answered⟩ := hj.1 left level value leaves
    rw [← List.append_assoc]
    exact ⟨x, obeyed, answered.append more⟩

theorem of_no_leave (h : ∀ e ∈ es, ¬ e.event.IsLeave) : SettledBy next es := by
  induction es with
  | nil => trivial
  | cons e post ih =>
    refine ⟨fun left level value leaves => ?_, ih fun d member => h d (List.mem_cons_of_mem e member)⟩
    have other := h e List.mem_cons_self
    rw [leaves] at other
    exact absurd trivial other

/-- What follows a signal answers it, together with what comes next. -/
theorem answered {pre post : List Entry} {e : Entry} (hj : SettledBy next j)
    (split : j = pre ++ e :: post) {left : List Session} {level value : Value}
    (leaves : e.event = .leaves left level value) :
    ∃ x : Leave, x.ObeyedIn e ∧ x.AnsweredBy (post ++ next) := by
  induction pre generalizing j with
  | nil =>
    subst split
    exact hj.1 left level value leaves
  | cons d pre ih =>
    subst split
    exact ih hj.2 rfl

end SettledBy

theorem Settled.note {j : List Entry} (hj : Settled j) {e : Entry} (other : ¬ e.event.IsLeave) :
    Settled (j ++ [e]) := by
  refine .append (hj.followed [e]) (.of_no_leave fun d member => ?_)
  exact List.mem_singleton.mp member ▸ other

end NestShell.Shell

import Mathlib.Data.List.Nodup
import NestShell.Proofs.Shell.Handling

/-!
# Handles on sessions

Whoever starts a session keeps it as a handle, and uses the handle later on, when the session may
have been left or its level may have another one. A stack is asked about handles of sessions that
are open, that are gone, or that belong to another stack; it looks for a session where its level
says and compares the numbers of the two.

Sessions of all stacks draw their numbers from one supply, so no two of the sessions that are made
have the same number. This and the place of each session at its own level are all that the calls of
a stack rest on.
-/

namespace NestShell.Shell.Stack

open NestShell.Code

/-- A call of a stack. A handle is told by the place of its session among all that were made. -/
inductive Operation where
  | push (receiver : Value) (scope : Scope) (label : String)
  | release (handle : Nat)
  | contains (handle : Nat)
  | validate (level : Value)
  | breakout (level value : Value)
  /-- A session is made for another stack. -/
  | elsewhere (level : Nat) (receiver : Value) (scope : Scope) (label : String)

inductive Answer where
  | done
  | session (f : Session)
  | truth (b : Bool)
  | value (v : Value)
  | refused (e : InvalidLevel)

/-- A stack in use, and all sessions that were made so far, the earliest first. -/
structure Use where
  stack : Stack
  made : List Session

namespace Use

def start (scope : Scope) (label : String) : Use :=
  ⟨Stack.start scope label, [(Stack.start scope label).base]⟩

/-- The session of a handle, the lowest one for a handle that nobody has. -/
def session (u : Use) (handle : Nat) : Session := u.made[handle]?.getD u.stack.base

def call (u : Use) : Operation → Use × Answer
  | .push receiver scope label =>
    let f := u.stack.next receiver scope label
    (⟨u.stack.push receiver scope label, u.made ++ [f]⟩, .session f)
  | .release handle => ({ u with stack := u.stack.release (u.session handle) }, .done)
  | .contains handle => (u, .truth (u.stack.contains (u.session handle)))
  | .validate level =>
    match u.stack.validate level with
    | .ok _ => (u, .done)
    | .error e => (u, .refused e)
  | .breakout level value =>
    match u.stack.breakout level with
    | .ok k => ({ u with stack := k }, .value value)
    | .error e => (u, .refused e)
  | .elsewhere level receiver scope label =>
    let f : Session := ⟨u.stack.nextId, level, receiver, scope, label⟩
    (⟨{ u.stack with nextId := u.stack.nextId + 1 }, u.made ++ [f]⟩, .session f)

def after (u : Use) (calls : List Operation) : Use := calls.foldl (fun u c => (u.call c).1) u

theorem after_append (u : Use) (calls more : List Operation) :
    u.after (calls ++ more) = (u.after calls).after more := List.foldl_append

/-! ## What calls keep -/

/-- The lowest session is `first`, every open session stands at its level, and the sessions that
were made have the numbers from zero on. -/
structure Sound (first : Session) (u : Use) : Prop where
  base : u.stack.base = first
  levels : u.stack.sessions.map Session.level = List.range u.stack.sessions.length
  numbers : u.made.map Session.id = List.range u.stack.nextId
  known : u.stack.sessions ⊆ u.made

variable {u : Use} {first f : Session}

theorem sound_start (scope : Scope) (label : String) :
    Sound (Stack.start scope label).base (start scope label) :=
  ⟨rfl, rfl, rfl, List.Subset.refl _⟩

namespace Sound

theorem level_eq (h : Sound first u) {i : Nat} (inside : u.stack.sessions[i]? = some f) :
    f.level = i := by
  have level := congrArg (·[i]?) h.levels
  have bound := (List.getElem?_eq_some_iff.mp inside).1
  simpa [inside, List.getElem?_range bound] using level

/-- Sessions that were made are told apart by their numbers. -/
theorem eq_of_id (h : Sound first u) {g : Session} (hf : f ∈ u.made) (hg : g ∈ u.made)
    (same : f.id = g.id) : f = g := by
  have distinct : (u.made.map Session.id).Nodup := h.numbers ▸ List.nodup_range
  exact List.inj_on_of_nodup_map distinct hf hg same

theorem id_lt (h : Sound first u) (made : f ∈ u.made) : f.id < u.stack.nextId :=
  List.mem_range.mp (h.numbers ▸ List.mem_map_of_mem made)

theorem session_made (h : Sound first u) (handle : Nat) : u.session handle ∈ u.made := by
  unfold session
  cases found : u.made[handle]? with
  | some f => exact List.mem_of_getElem? found
  | none => exact h.known List.mem_cons_self

/-- Looking at a session's level and comparing numbers finds it where it is open, and only there. -/
theorem contains_iff_mem (h : Sound first u) (made : f ∈ u.made) :
    u.stack.contains f = true ↔ f ∈ u.stack.sessions := by
  rw [Stack.contains_iff]
  constructor
  · rintro ⟨g, found, same⟩
    have inside : g ∈ u.stack.sessions := List.mem_of_getElem? found
    rwa [← h.eq_of_id (h.known inside) made same]
  · intro inside
    obtain ⟨i, found⟩ := List.mem_iff_getElem?.mp inside
    exact ⟨f, by rw [h.level_eq found, found], rfl⟩

/-- Making a session, which the stack may or may not get. -/
theorem make (h : Sound first u) {k : Stack} (base : k.base = u.stack.base)
    (supply : k.nextId = u.stack.nextId + 1) (number : f.id = u.stack.nextId)
    (sessions : k.sessions = u.stack.sessions ∨
      k.sessions = u.stack.sessions ++ [f] ∧ f.level = u.stack.sessions.length) :
    Sound first ⟨k, u.made ++ [f]⟩ where
  base := base.trans h.base
  levels := by
    rcases sessions with same | ⟨pushed, level⟩
    · rw [same]
      exact h.levels
    · rw [pushed, List.map_append, List.length_append, h.levels, List.length_singleton,
        List.range_succ, List.map_singleton, level]
  numbers := by rw [List.map_append, h.numbers, supply, List.range_succ, List.map_singleton, number]
  known := by
    have old : u.stack.sessions ⊆ u.made ++ [f] :=
      List.Subset.trans h.known (List.subset_append_left _ _)
    rcases sessions with same | ⟨pushed, -⟩
    · rwa [same]
    · rw [pushed]
      exact List.append_subset.mpr ⟨old, List.subset_append_right _ _⟩

theorem cut (h : Sound first u) (level : Nat) :
    Sound first { u with stack := u.stack.cutAbove level } where
  base := h.base
  levels := by
    rw [Stack.cutAbove_sessions, List.map_take, h.levels, List.take_range, List.length_take]
  numbers := h.numbers
  known := by
    rw [Stack.cutAbove_sessions]
    exact List.Subset.trans (List.take_subset _ _) h.known

theorem release (h : Sound first u) (f : Session) :
    Sound first { u with stack := u.stack.release f } := by
  unfold Stack.release
  split
  · exact h
  · exact h.cut _

end Sound

/-! ## What each call does -/

/-- What a call answers and does, told of the open sessions before and after it. -/
def Meets (u : Use) (after : List Session) : Operation → Answer → Prop
  | .push receiver scope label, .session f =>
    f ∉ u.made ∧ f.level = u.stack.sessions.length ∧ f.receiver = receiver ∧ f.scope = scope ∧
      f.label = label ∧ after = u.stack.sessions ++ [f]
  | .release handle, .done =>
    (∃ lower above, lower ≠ [] ∧ u.stack.sessions = lower ++ u.session handle :: above ∧
      after = lower) ∨
    u.session handle ∉ u.stack.sessions.tail ∧ after = u.stack.sessions
  | .contains handle, .truth b =>
    (b = true ↔ u.session handle ∈ u.stack.sessions) ∧ after = u.stack.sessions
  | .validate level, .done =>
    (∃ n : Nat, levelOf? level = some (n : Int) ∧ n ≤ u.stack.depth) ∧ after = u.stack.sessions
  | .breakout level value, .value v =>
    v = value ∧ ∃ n : Nat, levelOf? level = some (n : Int) ∧ n ≤ u.stack.depth ∧
      after = u.stack.sessions.take (n + 1)
  | .validate level, .refused e | .breakout level _, .refused e =>
    (∀ n : Nat, levelOf? level = some (n : Int) → u.stack.depth < n) ∧
      e = ⟨level, u.stack.depth⟩ ∧ after = u.stack.sessions
  | .elsewhere level .., .session f =>
    f ∉ u.made ∧ f.level = level ∧ after = u.stack.sessions
  | _, _ => False

/-- Releasing a session that was made drops it and those above it, where it is open above the lowest
one. -/
theorem Sound.release_drops (h : Sound first u) (made : f ∈ u.made) :
    (∃ lower above, lower ≠ [] ∧ u.stack.sessions = lower ++ f :: above ∧
      (u.stack.release f).sessions = lower) ∨
    f ∉ u.stack.sessions.tail ∧ u.stack.release f = u.stack := by
  obtain ⟨cut, above, inside⟩ | ⟨same, stay⟩ := u.stack.release_sessions f
  · left
    obtain ⟨i, found⟩ := List.mem_iff_getElem?.mp ((h.contains_iff_mem made).mp inside)
    obtain rfl := h.level_eq found
    obtain ⟨bound, same⟩ := List.getElem?_eq_some_iff.mp found
    refine ⟨u.stack.sessions.take f.level, u.stack.sessions.drop (f.level + 1), ?_, ?_, cut⟩
    · intro none
      rcases List.take_eq_nil_iff.mp none with lowest | empty
      · exact above lowest
      · exact u.stack.sessions_ne_nil empty
    · conv_lhs => rw [← List.take_append_drop f.level u.stack.sessions,
        List.drop_eq_getElem_cons bound, same]
  · right
    refine ⟨fun inside => ?_, same⟩
    obtain ⟨i, found⟩ := List.mem_iff_getElem?.mp inside
    rw [List.getElem?_tail] at found
    rcases stay with lowest | outside
    · exact absurd (h.level_eq found) (by omega)
    · have contained := (h.contains_iff_mem made).mpr (List.mem_of_getElem? found)
      rw [outside] at contained
      cases contained

theorem Sound.number_is_new (h : Sound first u) (number : f.id = u.stack.nextId) : f ∉ u.made :=
  fun made => absurd (h.id_lt made) (by omega)

/-- One call of a stack in use. -/
theorem Sound.step (h : Sound first u) (c : Operation) :
    Sound first (u.call c).1 ∧ u.Meets (u.call c).1.stack.sessions c (u.call c).2 := by
  cases c with
  | push receiver scope label =>
    exact ⟨h.make rfl rfl rfl (.inr ⟨rfl, rfl⟩), h.number_is_new rfl, rfl, rfl, rfl, rfl, rfl⟩
  | release handle =>
    refine ⟨h.release _, (h.release_drops (h.session_made handle)).imp_right ?_⟩
    exact fun ⟨outside, same⟩ => ⟨outside, congrArg Stack.sessions same⟩
  | contains handle => exact ⟨h, h.contains_iff_mem (h.session_made handle), rfl⟩
  | validate level =>
    unfold call
    dsimp only
    cases valid : u.stack.validate level with
    | ok n => exact ⟨h, ⟨n, u.stack.validate_ok valid⟩, rfl⟩
    | error e =>
      obtain ⟨rfl, beyond⟩ := u.stack.validate_error valid
      exact ⟨h, beyond, rfl, rfl⟩
  | breakout level value =>
    unfold call
    dsimp only
    cases left : u.stack.breakout level with
    | ok k =>
      obtain ⟨n, known, within, rfl⟩ := u.stack.breakout_cuts left
      exact ⟨h.cut n, rfl, n, known, within, rfl⟩
    | error e =>
      obtain ⟨rfl, beyond⟩ := u.stack.validate_error (u.stack.breakout_error left)
      exact ⟨h, beyond, rfl, rfl⟩
  | elsewhere level receiver scope label =>
    exact ⟨h.make rfl rfl rfl (.inl rfl), h.number_is_new rfl, rfl, rfl⟩

theorem Sound.after (h : Sound first u) (calls : List Operation) : Sound first (u.after calls) := by
  induction calls generalizing u with
  | nil => exact h
  | cons c calls ih => exact ih (h.step c).1

/-- A shell that leaves sessions down to a level keeps those up to it and carries the value, or,
where the level is that of no session, leaves everything open and carries what it carried. -/
def Carries (s : State) (level value : Value) : Prop :=
  (∃ n : Nat, levelOf? level = some (n : Int) ∧ n ≤ s.stack.depth ∧
    ∃ t, leaveTo level value s = .ok true t ∧ t.desk.unwound = value ∧
      t.stack.sessions = s.stack.sessions.take (n + 1)) ∨
  (∀ n : Nat, levelOf? level = some (n : Int) → s.stack.depth < n) ∧
    (∀ t, leaveTo level value s ≠ .ok true t) ∧
    (endState (leaveTo level value s)).stack = s.stack ∧
    (endState (leaveTo level value s)).desk.unwound = s.desk.unwound

theorem leaveTo_carries (s : State) (level value : Value) : Carries s level value := by
  unfold Carries
  cases left : s.stack.breakout level with
  | ok k =>
    obtain ⟨n, known, within, rfl⟩ := s.stack.breakout_cuts left
    exact .inl ⟨n, known, within, _, leaveTo_apply s left, rfl, rfl⟩
  | error e =>
    obtain ⟨⟨d, n, kept, same⟩, refused⟩ := leaveTo_refused value left
    obtain ⟨-, beyond⟩ := s.stack.validate_error (s.stack.breakout_error left)
    rw [same]
    exact .inr ⟨beyond, refused, rfl, kept.unwound⟩

/-- How a stack stands between two calls, and what the next one does, whichever it is. -/
structure InOrder (first : Session) (u : Use) : Prop where
  lowest : u.stack.sessions[0]? = some first
  levels : ∀ (i : Nat) (f : Session), u.stack.sessions[i]? = some f → f.level = i
  depth : u.stack.sessions.length = u.stack.depth + 1
  distinct : (u.made.map Session.id).Nodup
  made : u.stack.sessions ⊆ u.made
  next : ∀ c, u.Meets (u.call c).1.stack.sessions c (u.call c).2
  leaving : ∀ level value desk, Carries ⟨u.stack, desk⟩ level value

variable (scope : Scope) (label : String) (calls : List Operation)

/-- A session that was made and is not open. -/
structure Gone (f : Session) (u : Use) : Prop where
  made : f ∈ u.made
  closed : f ∉ u.stack.sessions

theorem made_subset (u : Use) (c : Operation) : u.made ⊆ (u.call c).1.made := by
  cases c with
  | push | elsewhere => exact List.subset_append_left _ _
  | release | contains => exact List.Subset.refl _
  | validate level =>
    unfold call
    dsimp only
    cases u.stack.validate level <;> exact List.Subset.refl _
  | breakout level value =>
    unfold call
    dsimp only
    cases u.stack.breakout level <;> exact List.Subset.refl _

theorem made_after (made : f ∈ u.made) (calls : List Operation) : f ∈ (u.after calls).made := by
  induction calls generalizing u with
  | nil => exact made
  | cons c calls ih => exact ih (u.made_subset c made)

/-- A call opens no session but one that it makes. -/
theorem Meets.opens {after : List Session} {c : Operation} {a : Answer}
    (meets : u.Meets after c a) (open_ : f ∈ after) : f ∈ u.stack.sessions ∨ f ∉ u.made := by
  have kept (same : after = u.stack.sessions) : f ∈ u.stack.sessions ∨ f ∉ u.made :=
    .inl (same ▸ open_)
  cases c <;> cases a <;> try exact meets.elim
  case push.session g =>
    obtain ⟨new, -, -, -, -, rfl⟩ := meets
    rcases List.mem_append.mp open_ with old | pushed
    · exact .inl old
    · rw [List.mem_singleton.mp pushed]
      exact .inr new
  case release.done =>
    obtain ⟨lower, above, -, whole, rfl⟩ | ⟨-, same⟩ := meets
    · rw [whole]
      exact .inl (List.mem_append_left _ open_)
    · exact kept same
  case contains.truth => exact kept meets.2
  case validate.done => exact kept meets.2
  case validate.refused => exact kept meets.2.2
  case breakout.value =>
    obtain ⟨-, n, -, -, rfl⟩ := meets
    exact .inl (List.mem_of_mem_take open_)
  case breakout.refused => exact kept meets.2.2
  case elsewhere.session => exact kept meets.2.2

/-- A session that is gone stays gone. -/
theorem Gone.after (h : Sound first u) (gone : Gone f u) (calls : List Operation) :
    Gone f (u.after calls) := by
  induction calls generalizing u with
  | nil => exact gone
  | cons c calls ih =>
    obtain ⟨sound, meets⟩ := h.step c
    refine ih sound ⟨u.made_subset c gone.made, fun open_ => ?_⟩
    rcases meets.opens open_ with before | new
    · exact gone.closed before
    · exact new gone.made

/-- A session that was open and was dropped is never found again, and releasing it changes nothing,
whatever is pushed, released and left meanwhile. -/
theorem dropped_never_found {between : List Operation}
    (opened : f ∈ ((start scope label).after calls).stack.sessions)
    (dropped : f ∉ ((start scope label).after (calls ++ between)).stack.sessions)
    (later : List Operation) :
    let u := (start scope label).after (calls ++ between ++ later)
    f ∉ u.stack.sessions ∧ u.stack.contains f = false ∧ u.stack.release f = u.stack := by
  intro u
  have sound (calls : List Operation) := (sound_start scope label).after calls
  have made : f ∈ ((start scope label).after (calls ++ between)).made := by
    rw [after_append]
    exact made_after ((sound calls).known opened) between
  have gone : Gone f u := by
    rw [show u = ((start scope label).after (calls ++ between)).after later from after_append ..]
    exact Gone.after (sound _) ⟨made, dropped⟩ later
  refine ⟨gone.closed, ?_, ?_⟩
  · exact Bool.eq_false_iff.mpr (mt ((sound _).contains_iff_mem gone.made).mp gone.closed)
  · obtain ⟨lower, above, -, whole, -⟩ | ⟨-, same⟩ := (sound _).release_drops gone.made
    · refine absurd ?_ gone.closed
      rw [whole]
      exact List.mem_append_right _ List.mem_cons_self
    · exact same

/-- A session is left, and another one on the same receiver takes its level. -/
theorem refilled_level_not_found :
    let scope : Scope := { receiver := .int 5, globals := 0, locals := 0, toplevel := false }
    let push : Operation := .push (.int 5) scope "5"
    let f : Session := ⟨1, 1, .int 5, scope, "5"⟩
    let u := (start scope "main").after ([push] ++ [.breakout (.int 0) .none] ++ [push])
    f ∈ ((start scope "main").after [push]).stack.sessions ∧
      f ∉ ((start scope "main").after ([push] ++ [.breakout (.int 0) .none])).stack.sessions ∧
      u.stack.sessions[1]? = some { f with id := 2 } ∧
      f ∉ u.stack.sessions ∧ u.stack.contains f = false ∧ u.stack.release f = u.stack := by
  intro scope push f u
  have opened : f ∈ ((start scope "main").after [push]).stack.sessions :=
    List.mem_cons_of_mem _ List.mem_cons_self
  have dropped :
      f ∉ ((start scope "main").after ([push] ++ [.breakout (.int 0) .none])).stack.sessions := by
    intro still
    cases congrArg Session.id (List.mem_singleton.mp still)
  exact ⟨opened, dropped, rfl, dropped_never_found scope "main" [push] opened dropped [push]⟩

end Use

end NestShell.Shell.Stack

import NestShell.Shell.Stack

/-!
# The operations of a stack of sessions

Leaving and releasing sessions only ever cuts the stack, a push adds one session, and the lowest
session stays. Notes in the journal leave the sessions as they are.
-/

namespace NestShell.Shell.Stack

variable (s : Stack)

@[simp] theorem note_sessions (f : Session) (e : Event) (n : Nat) :
    (s.note f e n).sessions = s.sessions := rfl

@[simp] theorem note_journal (f : Session) (e : Event) (n : Nat) :
    (s.note f e n).journal = s.journal ++ [⟨f, e, s.sessions, n⟩] := rfl

theorem note_contains (f g : Session) (e : Event) (n : Nat) :
    (s.note g e n).contains f = s.contains f := rfl

@[simp] theorem push_journal (v : Code.Value) (scope : Code.Scope) (label : String) :
    (s.push v scope label).journal = s.journal := rfl

@[simp] theorem cutAbove_journal (level : Nat) : (s.cutAbove level).journal = s.journal := rfl

@[simp] theorem release_journal (f : Session) : (s.release f).journal = s.journal := by
  unfold release
  split <;> rfl

theorem sessions_ne_nil : s.sessions ≠ [] := List.cons_ne_nil _ _

theorem length_sessions : s.sessions.length = s.depth + 1 := rfl

theorem getLast?_sessions : s.sessions.getLast? = some s.top := by
  unfold sessions top
  rw [List.getLast?_cons, List.getLastD_eq_getLast?]

theorem top_of_last {f : Session} (last : s.sessions.getLast? = some f) : s.top = f :=
  Option.some.inj (s.getLast?_sessions.symm.trans last)

/-- A session that has the stack to itself is on top of it, at the lowest level. -/
theorem top_of_alone {f : Session} (alone : s.sessions = [f]) : s.top = f ∧ s.depth = 0 :=
  ⟨s.top_of_last (by rw [alone]; rfl),
    Nat.succ.inj (s.length_sessions.symm.trans (congrArg List.length alone))⟩

/-- The sessions below the top one, as many as its place in the stack says. -/
theorem sessions_eq_concat_top : ∃ lower, s.sessions = lower ++ [s.top] ∧ lower.length = s.depth := by
  obtain ⟨lower, whole⟩ := List.getLast?_eq_some_iff.mp s.getLast?_sessions
  have count := congrArg List.length whole
  simp only [length_sessions, List.length_append, List.length_singleton] at count
  exact ⟨lower, whole, by omega⟩

@[simp] theorem push_sessions (v : Code.Value) (scope : Code.Scope) (label : String) :
    (s.push v scope label).sessions = s.sessions ++ [s.next v scope label] := rfl

@[simp] theorem cutAbove_sessions (level : Nat) :
    (s.cutAbove level).sessions = s.sessions.take (level + 1) := rfl

theorem release_sessions (f : Session) :
    (s.release f).sessions = s.sessions.take f.level ∧ f.level ≠ 0 ∧ s.contains f = true ∨
      s.release f = s ∧ (f.level = 0 ∨ s.contains f = false) := by
  unfold release
  split
  · next stay =>
    right
    simp only [Bool.or_eq_true, beq_iff_eq, Bool.not_eq_eq_eq_not, Bool.not_true] at stay
    exact ⟨rfl, stay⟩
  · next cut =>
    left
    simp only [Bool.or_eq_true, beq_iff_eq, Bool.not_eq_eq_eq_not, Bool.not_true, not_or,
      Bool.not_eq_false] at cut
    obtain ⟨above, inside⟩ := cut
    refine ⟨?_, above, inside⟩
    rw [cutAbove_sessions, Nat.sub_add_cancel (Nat.pos_of_ne_zero above)]

theorem release_prefix (f : Session) : (s.release f).sessions <+: s.sessions := by
  obtain ⟨cut, -⟩ | ⟨same, -⟩ := s.release_sessions f
  · rw [cut]
    exact List.take_prefix _ _
  · exact ⟨[], by rw [List.append_nil, same]⟩

theorem breakout_ok {level : Code.Value} {t : Stack} (h : s.breakout level = .ok t) :
    ∃ n, s.validate level = .ok n ∧ t = s.cutAbove n := by
  unfold breakout at h
  cases valid : s.validate level with
  | error f => rw [valid] at h; cases h
  | ok n => rw [valid] at h; cases h; exact ⟨n, rfl, rfl⟩

theorem breakout_prefix {level : Code.Value} {t : Stack} (h : s.breakout level = .ok t) :
    t.sessions <+: s.sessions := by
  obtain ⟨n, -, rfl⟩ := s.breakout_ok h
  rw [cutAbove_sessions]
  exact List.take_prefix _ _

theorem breakout_journal {level : Code.Value} {t : Stack} (h : s.breakout level = .ok t) :
    t.journal = s.journal := by
  obtain ⟨n, -, rfl⟩ := s.breakout_ok h
  rfl

theorem contains_iff (f : Session) :
    s.contains f = true ↔ ∃ g, s.sessions[f.level]? = some g ∧ g.id = f.id := by
  unfold contains
  cases s.sessions[f.level]? <;> simp

/-- A session that is contained in what is left of a stack whose top it was is still the top. -/
theorem eq_of_contains {lower : List Session} {f : Session} (level : lower.length = f.level)
    (below : s.sessions <+: lower ++ [f]) (inside : s.contains f = true) :
    s.sessions = lower ++ [f] := by
  obtain ⟨g, found, -⟩ := (s.contains_iff f).mp inside
  refine below.eq_of_length_le ?_
  have reaches := (List.getElem?_eq_some_iff.mp found).1
  simp only [List.length_append, List.length_singleton]
  omega

theorem contains_of_eq {lower : List Session} {f : Session} (level : lower.length = f.level)
    (whole : s.sessions = lower ++ [f]) : s.contains f = true := by
  rw [contains_iff, whole, ← level]
  exact ⟨f, List.getElem?_concat_length, rfl⟩

/-- Where a session other than the lowest is released, those below it are left at most. -/
theorem release_below {lower : List Session} {f : Session} (level : lower.length = f.level)
    (above : f.level ≠ 0) (below : s.sessions <+: lower ++ [f]) :
    (s.release f).sessions <+: lower := by
  obtain ⟨cut, -⟩ | ⟨same, stay⟩ := s.release_sessions f
  · rw [cut, ← level]
    exact List.prefix_of_prefix_length_le ((List.take_prefix _ _).trans below)
      (List.prefix_append _ _) (List.length_take_le _ _)
  · rw [same]
    rcases List.prefix_concat_iff.mp below with whole | lower
    · have inside := s.contains_of_eq level (by simpa using whole)
      simp [above, inside] at stay
    · exact lower

theorem release_top {lower : List Session} {f : Session} (level : lower.length = f.level)
    (above : f.level ≠ 0) (whole : s.sessions = lower ++ [f]) :
    (s.release f).sessions = lower := by
  have inside := s.contains_of_eq level whole
  obtain ⟨cut, -⟩ | ⟨-, stay⟩ := s.release_sessions f
  · rw [cut, whole, ← level]
    exact List.take_left
  · simp [above, inside] at stay

theorem not_contains_of_length_le {f : Session} (gone : s.sessions.length ≤ f.level) :
    s.contains f = false := by
  unfold contains
  rw [List.getElem?_eq_none gone]
  rfl

theorem release_gone {f : Session} (gone : s.sessions.length ≤ f.level) : s.release f = s := by
  obtain ⟨-, -, inside⟩ | ⟨same, -⟩ := s.release_sessions f
  · rw [s.not_contains_of_length_le gone] at inside
    cases inside
  · exact same

/-- A value is a valid level where it is the number of a session's level. -/
theorem validate_ok {level : Code.Value} {n : Nat} (valid : s.validate level = .ok n) :
    levelOf? level = some (n : Int) ∧ n ≤ s.depth := by
  unfold validate at valid
  split at valid
  · next k known =>
    split at valid
    · next within =>
      simp only [Bool.and_eq_true, decide_eq_true_eq] at within
      cases valid
      exact ⟨by rw [known, Int.toNat_of_nonneg within.1], by omega⟩
    · cases valid
  · cases valid

/-- A value is refused where no session has it as its level, and the report says so. -/
theorem validate_error {level : Code.Value} {e : InvalidLevel}
    (refused : s.validate level = .error e) :
    e = ⟨level, s.depth⟩ ∧ ∀ n : Nat, levelOf? level = some (n : Int) → s.depth < n := by
  unfold validate at refused
  split at refused
  · next k known =>
    split at refused
    · cases refused
    · next outside =>
      cases refused
      simp only [Bool.and_eq_true, decide_eq_true_eq, not_and, Int.not_le] at outside
      refine ⟨rfl, fun n same => ?_⟩
      have number : k = n := Option.some.inj (known.symm.trans same)
      have beyond := outside (by omega)
      omega
  · next unknown =>
    cases refused
    refine ⟨rfl, fun n same => ?_⟩
    rw [unknown] at same
    cases same

/-- A signal is obeyed where its level is that of a session. -/
theorem breakout_cuts {level : Code.Value} {t : Stack} (h : s.breakout level = .ok t) :
    ∃ n : Nat, levelOf? level = some (n : Int) ∧ n ≤ s.depth ∧ t = s.cutAbove n := by
  obtain ⟨n, valid, rfl⟩ := s.breakout_ok h
  obtain ⟨known, within⟩ := s.validate_ok valid
  exact ⟨n, known, within, rfl⟩

/-- Nothing but the lowest level can be broken out to where there is no other. -/
theorem breakout_alone {f : Session} (alone : s.sessions = [f]) {level : Code.Value} {t : Stack}
    (h : s.breakout level = .ok t) : levelOf? level = some 0 := by
  obtain ⟨n, known, within, -⟩ := s.breakout_cuts h
  obtain rfl : n = 0 := Nat.le_zero.mp ((s.top_of_alone alone).2 ▸ within)
  exact known

theorem breakout_error {level : Code.Value} {e : InvalidLevel}
    (refused : s.breakout level = .error e) : s.validate level = .error e := by
  unfold breakout at refused
  cases valid : s.validate level with
  | error f => rw [valid] at refused; cases refused; rfl
  | ok n => rw [valid] at refused; cases refused

/-- The number that a refused level is, if it is one, is beyond those of the sessions. -/
theorem length_le_of_refused {level : Code.Value} {e : InvalidLevel}
    (refused : s.breakout level = .error e) {n : Nat} (named : levelOf? level = some (n : Int)) :
    s.sessions.length ≤ n := by
  have invalid := s.breakout_error refused
  unfold validate at invalid
  rw [named] at invalid
  dsimp only at invalid
  split at invalid
  · cases invalid
  · next outside =>
    have count := s.length_sessions
    simp only [Bool.and_eq_true, decide_eq_true_eq] at outside
    omega

/-- There is a level for each number up to the depth. -/
theorem breakout_of_le {n : Nat} (within : n ≤ s.depth) :
    s.breakout (.int n) = .ok (s.cutAbove n) := by
  have valid : s.validate (.int n) = .ok n := by
    unfold validate levelOf?
    dsimp only
    rw [if_pos (by simpa using within), Int.toNat_natCast]
  unfold breakout
  rw [valid]
  rfl

/-- A signal to the top session cuts nothing. -/
theorem breakout_own : s.breakout (.int s.depth) = .ok s := by
  have all : s.cutAbove s.depth = s := by
    unfold cutAbove depth
    rw [List.take_length]
  rw [s.breakout_of_le (Nat.le_refl _), all]

end NestShell.Shell.Stack

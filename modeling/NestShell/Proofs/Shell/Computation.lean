import Mathlib.Order.Defs.Unbundled
import NestShell.Shell.State

/-!
# What computations do to the state

A computation stays within a relation if the state in which it ends, with a value or at a stop, is
related to the one in which it began. For a preorder this passes from the parts of a computation to
the whole. The parts are found by instance search, so a claim about all runs of a program needs a
look at its single steps only.
-/

namespace NestShell.Shell

variable {σ α β : Type} {R S : σ → σ → Prop}

/-! ## Equations -/

theorem bind_apply (p : EStateM Stop σ α) (f : α → EStateM Stop σ β) (s : σ) :
    (p >>= f) s = match p s with
      | .ok a t => f a t
      | .error e t => .error e t := by
  change EStateM.bind p f s = _
  unfold EStateM.bind
  cases p s <;> rfl

theorem tryCatch_apply (p : EStateM Stop σ α) (h : Stop → EStateM Stop σ α) (s : σ) :
    (tryCatch p h) s = match p s with
      | .ok a t => .ok a t
      | .error e t => h e t := by
  change EStateM.tryCatch p h s = _
  unfold EStateM.tryCatch
  cases p s <;> rfl

theorem get_apply (s : σ) : (get : EStateM Stop σ σ) s = .ok s s := rfl

/-- A program that ends with a value has gone through its first part. -/
theorem bind_ok {p : EStateM Stop σ α} {f : α → EStateM Stop σ β} {s u : σ} {b : β}
    (h : (p >>= f) s = .ok b u) : ∃ a t, p s = .ok a t ∧ f a t = .ok b u := by
  rw [bind_apply] at h
  cases hp : p s with
  | ok a t => rw [hp] at h; exact ⟨a, t, rfl, h⟩
  | error e t => rw [hp] at h; cases h

/-- A program that stops does so in its first part or after it. -/
theorem bind_error {p : EStateM Stop σ α} {f : α → EStateM Stop σ β} {s u : σ} {e : Stop}
    (h : (p >>= f) s = .error e u) :
    p s = .error e u ∨ ∃ a t, p s = .ok a t ∧ f a t = .error e u := by
  rw [bind_apply] at h
  cases hp : p s with
  | ok a t => rw [hp] at h; exact .inr ⟨a, t, rfl, h⟩
  | error e' t => rw [hp] at h; exact .inl (by cases h; rfl)

theorem ofDesk_apply (p : DeskM α) (s : State) :
    ShellM.ofDesk p s = match p s.desk with
      | .ok a d => .ok a { s with desk := d }
      | .error e d => .error e { s with desk := d } := rfl

theorem modifyDesk_apply (f : Desk → Desk) (s : State) :
    ShellM.modifyDesk f s = .ok .unit { s with desk := f s.desk } := rfl

theorem note_apply (f : Session) (e : Event) (s : State) :
    ShellM.note f e s = .ok .unit { s with stack := s.stack.note f e s.desk.waiting } := rfl

theorem afterwards_apply (f : Option α → State → State) (p : ShellM α) (s : State) :
    ShellM.afterwards f p s = match p s with
      | .ok a t => .ok a (f (some a) t)
      | .error e t => .error e (f none t) := rfl

/-! ## The relation between the first state and the last -/

/-- The state in which a computation ends. -/
def endState : EStateM.Result Stop σ α → σ
  | .ok _ s => s
  | .error _ s => s

/-- Whether a computation ended before its fuel did. -/
def finished : EStateM.Result Stop σ α → Bool
  | .error .outOfFuel _ => false
  | _ => true

class Stays (R : σ → σ → Prop) (p : EStateM Stop σ α) : Prop where
  within : ∀ s, R s (endState (p s))

theorem Stays.mono {p : EStateM Stop σ α} (hp : Stays R p) (le : ∀ s t, R s t → S s t) :
    Stays S p := ⟨fun s => le s _ (hp.within s)⟩

theorem Stays.of_ok {p : EStateM Stop σ α} (hp : Stays R p) {s t : σ} {a : α}
    (h : p s = .ok a t) : R s t := by
  have ends := hp.within s
  rwa [h] at ends

theorem Stays.of_error {p : EStateM Stop σ α} (hp : Stays R p) {s t : σ} {e : Stop}
    (h : p s = .error e t) : R s t := by
  have ends := hp.within s
  rwa [h] at ends

/-- What follows a look at the state may be about that state alone. -/
theorem Stays.get_bind {f : σ → EStateM Stop σ β} (hf : ∀ s, R s (endState (f s s))) :
    Stays R (get >>= f) := ⟨hf⟩

theorem Stays.modify {f : σ → σ} (hf : ∀ s, R s (f s)) :
    Stays R (modify f : EStateM Stop σ PUnit) := ⟨hf⟩

section Parts

variable [IsPreorder σ R]

theorem Stays.bind {p : EStateM Stop σ α} {f : α → EStateM Stop σ β} (hp : Stays R p)
    (hf : ∀ a, Stays R (f a)) : Stays R (p >>= f) := by
  refine ⟨fun s => ?_⟩
  rw [bind_apply]
  cases h : p s with
  | ok a t => exact IsTrans.trans _ _ _ (hp.of_ok h) ((hf a).within t)
  | error e t => exact hp.of_error h

theorem Stays.tryCatch {p : EStateM Stop σ α} {h : Stop → EStateM Stop σ α} (hp : Stays R p)
    (hh : ∀ e, Stays R (h e)) : Stays R (tryCatch p h) := by
  refine ⟨fun s => ?_⟩
  rw [tryCatch_apply]
  cases hps : p s with
  | ok a t => exact hp.of_ok hps
  | error e t => exact IsTrans.trans _ _ _ (hp.of_error hps) ((hh e).within t)

instance stays_throw (e : Stop) : Stays R (throw e : EStateM Stop σ α) :=
  ⟨fun s => Std.Refl.refl s⟩

instance stays_pure (a : α) : Stays R (pure a : EStateM Stop σ α) := ⟨fun s => Std.Refl.refl s⟩

instance stays_get : Stays R (get : EStateM Stop σ σ) := ⟨fun s => Std.Refl.refl s⟩

instance stays_bind {p : EStateM Stop σ α} {f : α → EStateM Stop σ β} [hp : Stays R p]
    [hf : ∀ a, Stays R (f a)] : Stays R (p >>= f) := .bind hp hf

instance stays_tryCatch {p : EStateM Stop σ α} {h : Stop → EStateM Stop σ α} [hp : Stays R p]
    [hh : ∀ e, Stays R (h e)] : Stays R (tryCatch p h) := .tryCatch hp hh

instance stays_ite {c : Prop} [Decidable c] {p q : EStateM Stop σ α} [hp : Stays R p]
    [hq : Stays R q] : Stays R (if c then p else q) := by
  split
  · exact hp
  · exact hq

instance stays_mapM {f : α → EStateM Stop σ β} [∀ a, Stays R (f a)] (xs : List α) :
    Stays R (xs.mapM f) := by
  induction xs with
  | nil => rw [List.mapM_nil]; infer_instance
  | cons x xs ih => rw [List.mapM_cons]; infer_instance

instance stays_forIn {f : α → β → EStateM Stop σ (ForInStep β)} [hf : ∀ a b, Stays R (f a b)]
    (xs : List α) (b : β) : Stays R (forIn xs b f) := by
  induction xs generalizing b with
  | nil => rw [List.forIn_nil]; infer_instance
  | cons x xs ih =>
    rw [List.forIn_cons]
    refine .bind (hf x b) fun next => ?_
    cases next with
    | done b => exact stays_pure b
    | yield b => exact ih b

end Parts

/-- What is true before is true after. -/
def Preserves (P : σ → Prop) (s t : σ) : Prop := P s → P t

instance (P : σ → Prop) : IsPreorder σ (Preserves P) where
  refl _ := id
  trans _ _ _ first second := second ∘ first

/-! ## How a computation ends -/

/-- A result with a value and a state for which `Q` holds, or a stop in a state for which `E` holds.
Nothing is said of stops that do not count, such as those for which there was too little fuel. -/
structure Ends (r : EStateM.Result Stop σ α) (Q : α → σ → Prop) (E : σ → Prop)
    (counts : Stop → Prop := fun e => e ≠ .outOfFuel) : Prop where
  value : ∀ {a t}, r = .ok a t → Q a t
  stop : ∀ {e t}, r = .error e t → counts e → E t

namespace Ends

variable {Q : α → σ → Prop} {E F : σ → Prop} {counts : Stop → Prop} {p : EStateM Stop σ α} {s : σ}

theorem ok {a : α} (h : Q a s) : Ends (.ok a s) Q E counts :=
  ⟨fun done => by cases done; exact h, nofun⟩

theorem error {e : Stop} (h : counts e → E s) : Ends (.error e s) Q E counts :=
  ⟨nofun, fun done => by cases done; exact h⟩

theorem pure {a : α} (h : Q a s) : Ends ((Pure.pure a : EStateM Stop σ α) s) Q E counts := ok h

theorem change {Q : PUnit → σ → Prop} {f : σ → σ} (h : Q .unit (f s)) :
    Ends ((modify f : EStateM Stop σ PUnit) s) Q E counts := ok h

theorem mono {Q' : α → σ → Prop} {r : EStateM.Result Stop σ α} (h : Ends r Q E counts)
    (values : ∀ a t, Q a t → Q' a t) (stops : ∀ t, E t → F t) : Ends r Q' F counts :=
  ⟨fun done => values _ _ (h.value done), fun done other => stops _ (h.stop done other)⟩

theorem stops {r : EStateM.Result Stop σ α} (h : Ends r Q E counts) (more : ∀ t, E t → F t) :
    Ends r Q F counts := h.mono (fun _ _ => id) more

theorem get_bind {Q : β → σ → Prop} {f : σ → EStateM Stop σ β} (h : Ends (f s s) Q E counts) :
    Ends ((get >>= f) s) Q E counts := h

theorem bind {Q' : β → σ → Prop} {f : α → EStateM Stop σ β} (first : Ends (p s) Q E counts)
    (rest : ∀ a t, Q a t → Ends (f a t) Q' E counts) : Ends ((p >>= f) s) Q' E counts := by
  constructor
  · intro b u done
    obtain ⟨a, t, hp, hf⟩ := bind_ok done
    exact (rest a t (first.value hp)).value hf
  · intro e u done other
    obtain hp | ⟨a, t, hp, hf⟩ := bind_error done
    · exact first.stop hp other
    · exact (rest a t (first.value hp)).stop hf other

/-- A handler may not hide a stop that does not count. -/
theorem tryCatch {h : Stop → EStateM Stop σ α} (body : Ends (p s) Q E counts)
    (passed : ∀ e t, ¬ counts e → h e t = .error e t)
    (stop : ∀ e t, E t → Ends (h e t) Q F counts) : Ends ((tryCatch p h) s) Q F counts := by
  rw [tryCatch_apply]
  cases hp : p s with
  | ok a t => exact ok (body.value hp)
  | error e t =>
    by_cases counted : counts e
    · exact stop e t (body.stop hp counted)
    · dsimp only
      rw [passed e t counted]
      exact error fun other => absurd other counted

theorem of_stays {P : σ → Prop} (h : Stays (Preserves P) p) (holds : P s) :
    Ends (p s) (fun _ t => P t) P counts :=
  ⟨fun done => h.of_ok done holds, fun done _ => h.of_error done holds⟩

end Ends

/-! ## The values that a computation gives -/

class Gives (Q : α → Prop) (p : EStateM Stop σ α) : Prop where
  result : ∀ {s t : σ} {a : α}, p s = .ok a t → Q a

section Results

variable {Q : α → Prop}

theorem gives_pure {a : α} (h : Q a) : Gives Q (pure a : EStateM Stop σ α) :=
  ⟨fun done => by cases done; exact h⟩

theorem Gives.bind {p : EStateM Stop σ β} {f : β → EStateM Stop σ α} (hf : ∀ b, Gives Q (f b)) :
    Gives Q (p >>= f) := by
  refine ⟨fun h => ?_⟩
  obtain ⟨b, _, -, h⟩ := bind_ok h
  exact (hf b).result h

instance gives_throw (e : Stop) : Gives Q (throw e : EStateM Stop σ α) := ⟨nofun⟩

instance gives_bind {p : EStateM Stop σ β} {f : β → EStateM Stop σ α} [hf : ∀ b, Gives Q (f b)] :
    Gives Q (p >>= f) := .bind hf

instance gives_ite {c : Prop} [Decidable c] {p q : EStateM Stop σ α} [hp : Gives Q p]
    [hq : Gives Q q] : Gives Q (if c then p else q) := by
  split
  · exact hp
  · exact hq

instance gives_ofDesk {p : DeskM α} [hp : Gives Q p] : Gives Q (ShellM.ofDesk p) := by
  refine ⟨fun {s t a} done => ?_⟩
  rw [ofDesk_apply] at done
  cases given : p s.desk with
  | ok b d =>
    rw [given] at done
    cases done
    exact hp.result given
  | error e d =>
    rw [given] at done
    cases done

theorem Ends.gives {p : EStateM Stop σ α} {S : α → σ → Prop} {E : σ → Prop}
    {counts : Stop → Prop} {s : σ} (h : Ends (p s) S E counts) (hp : Gives Q p) :
    Ends (p s) (fun a t => Q a ∧ S a t) E counts :=
  ⟨fun done => ⟨hp.result done, h.value done⟩, h.stop⟩

end Results

end NestShell.Shell

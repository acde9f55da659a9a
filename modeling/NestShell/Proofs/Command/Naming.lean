import NestShell.Proofs.Command.Aliases

/-!
# What a new alias means

A new alias is given the command that its target stands for in the alias table, or else the command
of that name. So it means what the target means, unless the target is a command's name that an alias
overlays: then the target means the command, and the new alias what the overlaid alias stands for.
No other name changes its meaning.
-/

namespace NestShell

namespace Registry

variable {r r' : Registry} {c : Command} {a m n name target : String}

/-- The command that a name of a command means; the empty name means none. -/
theorem lookup_of_canonical (stands : r.canonical? n = some target)
    (known : r.hasCommand target = true) : r.lookup n = r.lookup target := by
  rw [lookup, lookup, stands, canonical?_of_hasCommand known]

theorem name_of_lookup (known : r.hasCommand n = true) (found : r.lookup n = some c) :
    c.name = n := by
  rw [lookup, canonical?_of_hasCommand known] at found
  obtain ⟨m, kept, found⟩ := Option.bind_eq_some_iff.mp found
  obtain ⟨same, -⟩ := Option.filter_eq_some_iff.mp kept
  have named : c.name = m := by simpa using List.find?_some found
  exact named.trans (Option.some.inj same).symm

/-! ## Where aliases lead -/

/-- Every alias leads to the name of a command that is there, and none to itself. -/
structure Grounded (r : Registry) : Prop where
  targets : ∀ e ∈ r.aliases, r.hasCommand e.2 = true
  others : ∀ e ∈ r.aliases, e.1 ≠ e.2

namespace Grounded

theorem aliasMade (grounded : r.Grounded) (made : r.alias? name n = some r') : r'.Grounded := by
  obtain ⟨known, commands, entries, -⟩ := alias?_some made
  have same (k : String) : r'.hasCommand k = r.hasCommand k := by
    rw [hasCommand, hasCommand, find?, find?, commands]
  constructor
  · intro e member
    rw [same]
    rcases entries e member with new | old
    · rw [new]
      exact known
    · exact grounded.targets e old
  · unfold alias? at made
    dsimp only at made
    intro e member
    split at made
    · cases made
    · split at made
      · cases made
        exact grounded.others e (Table.mem_of_mem_erase member)
      · next other =>
        cases made
        rcases Table.mem_of_mem_set member with rfl | old
        · simpa using other
        · exact grounded.others e old

theorem aliasTried (grounded : r.Grounded) (name n : String) :
    ((r.alias? name n).getD r).Grounded := by
  cases made : r.alias? name n with
  | none => exact grounded
  | some r' => exact grounded.aliasMade made

theorem registered (grounded : r.Grounded) (c : Command) : (r.register c).Grounded := by
  have start : Grounded ⟨put c r.commands, Table.erase c.name r.aliases⟩ := by
    constructor
    · intro e member
      have known := hasCommand_iff.mp (grounded.targets e (Table.mem_of_mem_erase member))
      rw [hasCommand_iff, commandNames, names_put]
      split
      · exact known
      · exact List.mem_append_left _ known
    · intro e member
      exact grounded.others e (Table.mem_of_mem_erase member)
  unfold register
  dsimp only
  generalize (⟨put c r.commands, Table.erase c.name r.aliases⟩ : Registry) = s at start ⊢
  induction c.aliases generalizing s with
  | nil => exact start
  | cons b bs ih => exact ih _ (start.aliasTried b c.name)

theorem removed (grounded : r.Grounded) (n : String) : (r.remove n).Grounded := by
  cases stands : r.canonical? n with
  | none =>
    rw [remove, stands]
    exact grounded
  | some m =>
    have entries {e : String × String} (member : e ∈ (r.remove n).aliases) :
        e ∈ r.aliases ∧ e.2 ≠ m := by simpa [remove, stands] using member
    constructor
    · intro e member
      obtain ⟨old, other⟩ := entries member
      rw [hasCommand_iff, names_remove stands, List.mem_filter]
      exact ⟨hasCommand_iff.mp (grounded.targets e old), bne_iff_ne.mpr other⟩
    · intro e member
      exact grounded.others e (entries member).1

theorem performed (grounded : r.Grounded) (call : Call) : (call.perform r).Grounded := by
  cases call with
  | register c => exact grounded.registered c
  | makeAlias name n => exact grounded.aliasTried name n
  | dropAlias name =>
    constructor
    · exact fun e member => grounded.targets e (Table.mem_of_mem_erase member)
    · exact fun e member => grounded.others e (Table.mem_of_mem_erase member)
  | remove n => exact grounded.removed n

theorem run (calls : List Call) : (History.run calls).registry.Grounded := by
  induction calls using List.reverseRecOn with
  | nil => exact ⟨nofun, nofun⟩
  | append_singleton calls call ih =>
    rw [History.run, List.foldl_append]
    exact ih.performed call

/-- What a name that means a command leads to where an alias is made: a command that is there, and
for a name that is no overlaid command's the one that it means. -/
theorem targetOf_of_lookup (grounded : r.Grounded) (found : r.lookup n = some c) :
    r.hasCommand (r.targetOf n) = true ∧
      (r.hasCommand n = true ∧ r.isAlias n = true ∨ r.lookup (r.targetOf n) = some c) := by
  cases entry : r.aliases.lookup n with
  | none =>
    have same : r.targetOf n = n := by rw [targetOf, entry, Option.getD_none]
    have known : r.hasCommand n = true := by
      by_contra unknown
      rw [lookup, canonical?, if_neg unknown, entry] at found
      cases found
    rw [same]
    exact ⟨known, .inr found⟩
  | some target =>
    have same : r.targetOf n = target := by rw [targetOf, entry, Option.getD_some]
    have known : r.hasCommand target = true := grounded.targets _ (Table.mem_of_lookup entry)
    rw [same]
    refine ⟨known, ?_⟩
    by_cases own : r.hasCommand n = true
    · exact .inl ⟨own, by rw [isAlias, entry, Option.isSome_some]⟩
    · have stands : r.canonical? n = some target := by
        rw [canonical?, if_neg own, entry, Option.filter_some, if_pos known]
      exact .inr (lookup_of_canonical stands known ▸ found)

/-- An overlaid command's name leads to another command. -/
theorem lookup_targetOf_ne (grounded : r.Grounded) (found : r.lookup n = some c)
    (own : r.hasCommand n = true) (overlaid : r.isAlias n = true) :
    r.lookup (r.targetOf n) ≠ some c := by
  intro same
  obtain ⟨target, entry⟩ := Option.isSome_iff_exists.mp overlaid
  have leads : r.targetOf n = target := by rw [targetOf, entry, Option.getD_some]
  have member := Table.mem_of_lookup entry
  rw [leads] at same
  refine grounded.others _ member ?_
  exact (name_of_lookup own found).symm.trans (name_of_lookup (grounded.targets _ member) same)

end Grounded

/-! ## A new alias -/

/-- A name that no command has is made an alias in its place in the table. -/
theorem alias?_of_free (free : r.hasCommand a = false)
    (known : r.hasCommand (r.targetOf n) = true) :
    r.alias? a n = some { r with aliases := Table.set a (r.targetOf n) r.aliases } := by
  have other : a ≠ r.targetOf n := by
    rintro same
    rw [← same, free] at known
    cases known
  unfold alias?
  dsimp only
  rw [known, if_neg (by simp), if_neg (by simpa using other)]

/-- The names that an entry of the alias table does not concern mean what they meant. -/
theorem lookup_alias_other (other : m ≠ a) (target : String) :
    ({ r with aliases := Table.set a target r.aliases } : Registry).lookup m = r.lookup m := by
  have same : (Table.set a target r.aliases).lookup m = r.aliases.lookup m := by
    rw [Table.lookup_set, if_neg other]
  rw [lookup, lookup, canonical?, canonical?, same]
  rfl

/-- A name that no command has means what its entry in the alias table leads to. -/
theorem lookup_alias_self (free : r.hasCommand a = false) (known : r.hasCommand target = true) :
    ({ r with aliases := Table.set a target r.aliases } : Registry).lookup a = r.lookup target := by
  let made : Registry := { r with aliases := Table.set a target r.aliases }
  have stands : made.canonical? a = some target := by
    have unknown : ¬ made.hasCommand a = true := by
      rw [show made.hasCommand a = r.hasCommand a from rfl, free]
      exact Bool.false_ne_true
    rw [canonical?, if_neg unknown, Table.lookup_set, if_pos rfl, Option.filter_some,
      if_pos (show made.hasCommand target = true from known)]
  rw [lookup, lookup, stands, canonical?_of_hasCommand known]
  rfl

/-- After any calls, making an alias of a name that means a command, under a name that no command
has, is not refused. Every other name means what it meant, the target included. The new alias means
the command of the name to which the target leads in the alias table; that is the target's own
command exactly if no alias overlays the target. -/
theorem alias_takes_target {calls : List Call} (reached : (History.run calls).registry = r)
    (found : r.lookup n = some c) (free : r.hasCommand a = false) :
    ∃ r', r.alias? a n = some r' ∧ (∀ m, m ≠ a → r'.lookup m = r.lookup m) ∧
      r'.lookup a = r.lookup (r.targetOf n) ∧
      (r'.lookup a = some c ↔ ¬ (r.hasCommand n = true ∧ r.isAlias n = true)) ∧
      (r'.lookup a = some c → r'.lookup n = some c) := by
  have grounded : r.Grounded := reached ▸ Grounded.run calls
  obtain ⟨known, meaning⟩ := grounded.targetOf_of_lookup found
  have self := lookup_alias_self free known
  refine ⟨_, alias?_of_free free known, fun m other => lookup_alias_other other _, self, ?_, ?_⟩
  · rw [self]
    constructor
    · rintro same ⟨own, overlaid⟩
      exact grounded.lookup_targetOf_ne found own overlaid same
    · exact meaning.resolve_left
  · intro same
    by_cases again : n = a
    · subst again
      exact same
    · rw [lookup_alias_other again, found]

/-- An alias of an alias means the command that both stand for. -/
theorem alias_of_alias_takes_target : ∃ r c r', (History.run overlaid).registry = r ∧
    r.lookup "c" = some c ∧ c.name = "b" ∧ r.hasCommand "d" = false ∧ r.alias? "d" "c" = some r' ∧
      r'.lookup "d" = some c ∧ r'.lookup "c" = some c ∧ r'.lookup "a" = r.lookup "a" := by
  obtain ⟨r, reached⟩ : ∃ r, (History.run overlaid).registry = r := ⟨_, rfl⟩
  have name : (r.lookup "c").map (·.name) = some "b" := by
    rw [← reached]
    decide +kernel
  have free : r.hasCommand "d" = false := by
    rw [← reached]
    decide +kernel
  have own : r.hasCommand "c" = false := by
    rw [← reached]
    decide +kernel
  obtain ⟨c, found, named⟩ := Option.map_eq_some_iff.mp name
  obtain ⟨r', made, others, -, means, target⟩ := alias_takes_target reached found free
  have taken : r'.lookup "d" = some c := means.mpr (by simp [own])
  exact ⟨r, c, r', reached, found, named, free, made, taken, target taken,
    others "a" (by decide)⟩

/-- An alias of a command's name that another alias overlays means another command. -/
theorem overlaid_name_misleads :
    ¬ ∀ (calls : List Call) (r r' : Registry) (a n : String) (c : Command),
      (History.run calls).registry = r → r.lookup n = some c → r.hasCommand a = false →
        r.alias? a n = some r' → r'.lookup a = some c := by
  intro keeps
  let r := (History.run overlaid).registry
  have before : (r.lookup "a").map (·.name) = some "a" := by decide +kernel
  have free : r.hasCommand "x" = false := by decide +kernel
  have after : ((r.alias? "x" "a").bind fun r' => (r'.lookup "x").map (·.name)) = some "b" := by
    decide +kernel
  obtain ⟨c, found, named⟩ := Option.map_eq_some_iff.mp before
  obtain ⟨r', made, means⟩ := Option.bind_eq_some_iff.mp after
  rw [keeps overlaid r r' "x" "a" c rfl found free made, Option.map_some, named] at means
  exact absurd means (by decide)

end Registry

end NestShell

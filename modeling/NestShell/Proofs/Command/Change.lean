import NestShell.Proofs.Command.Naming

/-!
# What registering and removing change

A registered command is meant by its own name, by those of its aliases that no command has for a
name, and by every name that meant the command in whose place it comes. A removed command is meant
by no name any more. All other names mean what they meant, whatever calls came before.
-/

namespace NestShell

namespace Table

variable {α : Type}

theorem lookup_of_not_mem {t : List (String × α)} {n : String} (free : n ∉ t.map Prod.fst) :
    t.lookup n = none := by
  cases found : t.lookup n with
  | none => rfl
  | some a => exact absurd (List.mem_map_of_mem (mem_of_lookup found)) free

/-- Where each name is bound once, entries that are dropped for what they bind uncover no others. -/
theorem lookup_filter {t : List (String × α)} (distinct : (t.map Prod.fst).Nodup) (p : α → Bool)
    (n : String) : (t.filter fun e => p e.2).lookup n = (t.lookup n).filter p := by
  induction t with
  | nil => rfl
  | cons e t ih =>
    obtain ⟨new, distinct⟩ := List.nodup_cons.mp distinct
    rw [lookup_cons, List.filter_cons]
    by_cases here : n = e.1
    · rw [if_pos here, Option.filter_some]
      split
      · rw [lookup_cons, if_pos here]
      · rw [ih distinct, lookup_of_not_mem (here ▸ new), Option.filter_none]
    · rw [if_neg here, ← ih distinct]
      split
      · rw [lookup_cons, if_neg here]
      · rfl

end Table

namespace Registry

variable {r s : Registry} {c d k : Command} {m n target : String}

/-! ## The two tables after a call -/

theorem find?_name (found : r.find? n = some c) : c.name = n := by
  simpa using List.find?_some found

theorem find?_put (c : Command) (cs : List Command) (m : String) :
    (put c cs).find? (·.name == m) =
      if m = c.name then some c else cs.find? (·.name == m) := by
  induction cs with
  | nil =>
    by_cases own : m = c.name
    · simp [put, own]
    · simp [put, own, Ne.symm own]
  | cons e cs ih =>
    by_cases replaced : e.name = c.name
    · by_cases own : m = c.name
      · simp [put, replaced, own]
      · simp [put, replaced, own, Ne.symm own]
    · rw [put, if_neg (by simpa using replaced), List.find?_cons, List.find?_cons, ih]
      by_cases own : m = c.name
      · have other : (e.name == m) = false := by simpa [own] using replaced
        rw [other, if_pos own]
      · rw [if_neg own, if_neg own]

/-- Aliases of a name that is a command's only take their places in the alias table. -/
theorem Owns.lookup_aliased (owns : s.Owns n) (as : List String) (m : String) :
    (as.foldl (fun r a => (r.alias? a n).getD r) s).aliases.lookup m =
      if m = n then none else if m ∈ as then some n else s.aliases.lookup m := by
  induction as generalizing s with
  | nil =>
    by_cases own : m = n
    · simpa [own] using owns.free
    · simp [own]
  | cons a as ih =>
    have leads : s.targetOf n = n := by rw [targetOf, owns.free, Option.getD_none]
    rw [List.foldl_cons]
    by_cases same : a = n
    · have made : s.alias? a n = some { s with aliases := Table.erase a s.aliases } := by
        simp [alias?, leads, owns.command, same]
      have owned : Owns { s with aliases := Table.erase a s.aliases } n :=
        ⟨owns.command, by rw [Table.lookup_erase, if_pos same.symm]⟩
      rw [made, Option.getD_some, ih owned, Table.lookup_erase, same]
      by_cases own : m = n <;> simp [own]
    · have made : s.alias? a n = some { s with aliases := Table.set a n s.aliases } := by
        simp [alias?, leads, owns.command, same]
      have owned : Owns { s with aliases := Table.set a n s.aliases } n :=
        ⟨owns.command, by rw [Table.lookup_set, if_neg (Ne.symm same), owns.free]⟩
      rw [made, Option.getD_some, ih owned, Table.lookup_set]
      by_cases own : m = n
      · rw [if_pos own, if_pos own]
      · by_cases new : m = a <;> simp [own, new]

theorem find?_register (r : Registry) (k : Command) (m : String) :
    (r.register k).find? m = if m = k.name then some k else r.find? m := by
  rw [find?, register, ((owns_put r k).aliased k.aliases).2.1]
  exact find?_put k r.commands m

theorem aliases_register (r : Registry) (k : Command) (m : String) :
    (r.register k).aliases.lookup m =
      if m = k.name then none else if m ∈ k.aliases then some k.name else r.aliases.lookup m := by
  rw [register, (owns_put r k).lookup_aliased k.aliases m, Table.lookup_erase]
  split
  · rfl
  · rfl

theorem find?_remove (stands : r.canonical? n = some target) (m : String) :
    (r.remove n).find? m = if m = target then none else r.find? m := by
  rw [remove, stands, find?, find?, List.find?_filter]
  split
  · next own =>
    refine List.find?_eq_none.mpr fun e _ => ?_
    simp [own]
  · next other =>
    congr 1
    funext e
    by_cases here : e.name = m <;> simp [here, other]

theorem aliases_remove (distinct : r.Distinct) (stands : r.canonical? n = some target)
    (m : String) :
    (r.remove n).aliases.lookup m = (r.aliases.lookup m).filter (· != target) := by
  rw [remove, stands]
  exact Table.lookup_filter distinct.keys (· != target) m

/-! ## What names mean -/

/-- What a name means is read off the two tables: the command of that name, or else the one to which
its alias leads. -/
theorem Sound.lookup_tables {h : History} (sound : Sound h) (n : String) :
    h.registry.lookup n =
      (h.registry.find? n).or ((h.registry.aliases.lookup n).bind h.registry.find?) := by
  rw [sound.lookup_eq, canonical?, hasCommand]
  cases own : h.registry.find? n with
  | some c => simp [own]
  | none =>
    cases entry : h.registry.aliases.lookup n with
    | none => rfl
    | some target =>
      have known := sound.targets _ (Table.mem_of_lookup entry)
      simp only [Option.isSome_none, Bool.false_eq_true, if_false, Option.filter_some,
        Option.none_or, Option.bind_some]
      rw [if_pos known, Option.bind_some]

/-- The names that mean a command once it is registered: its own, its aliases that are no command's
name, and the names that meant the command in whose place it comes. -/
def Takes (r : Registry) (k : Command) (m : String) : Prop :=
  m = k.name ∨ (m ∈ k.aliases ∧ r.hasCommand m = false) ∨
    ∃ c, r.lookup m = some c ∧ c.name = k.name

/-- The command that is taken out where a name is removed. -/
def removed? (r : Registry) (n : String) : Option Command := (r.canonical? n).bind r.find?

variable {events : List Event}

/-- A name that a registered command takes means it, and the other names mean what they meant. -/
theorem Sound.lookup_register (sound : Sound ⟨r, events⟩) (whole : k.name ≠ "") (m : String) :
    (r.Takes k m → (r.register k).lookup m = some k) ∧
      (¬ r.Takes k m → (r.register k).lookup m = r.lookup m) := by
  have before := sound.lookup_tables m
  have after := (sound.registered k whole).lookup_tables m
  dsimp only at before after
  rw [find?_register, aliases_register] at after
  by_cases own : m = k.name
  · rw [if_pos own, Option.some_or] at after
    exact ⟨fun _ => after, fun other => absurd (.inl own) other⟩
  rw [if_neg own, if_neg own] at after
  cases command : r.find? m with
  | some c =>
    -- A command that keeps its name is found before any alias.
    rw [command, Option.some_or] at before after
    refine ⟨?_, fun _ => after.trans before.symm⟩
    rintro (same | ⟨-, free⟩ | ⟨d, meant, same⟩)
    · exact absurd same own
    · rw [hasCommand, command] at free
      cases free
    · cases before.symm.trans meant
      exact absurd ((find?_name command).symm.trans same) own
  | none =>
    rw [command, Option.none_or] at before after
    by_cases declared : m ∈ k.aliases
    · rw [if_pos declared, Option.bind_some, find?_register, if_pos rfl] at after
      have free : r.hasCommand m = false := by rw [hasCommand, command, Option.isSome_none]
      exact ⟨fun _ => after, fun other => absurd (.inr (.inl ⟨declared, free⟩)) other⟩
    rw [if_neg declared] at after
    cases entry : r.aliases.lookup m with
    | none =>
      rw [entry, Option.bind_none] at before after
      refine ⟨?_, fun _ => after.trans before.symm⟩
      rintro (same | ⟨listed, -⟩ | ⟨d, meant, -⟩)
      · exact absurd same own
      · exact absurd listed declared
      · cases before.symm.trans meant
    | some target =>
      rw [entry, Option.bind_some] at before after
      rw [find?_register] at after
      by_cases leads : target = k.name
      · rw [if_pos leads] at after
        obtain ⟨c, there⟩ := Option.isSome_iff_exists.mp
          (sound.targets _ (Table.mem_of_lookup entry))
        have taken : r.Takes k m :=
          .inr (.inr ⟨c, before.trans there, (find?_name there).trans leads⟩)
        exact ⟨fun _ => after, fun other => absurd taken other⟩
      · rw [if_neg leads] at after
        refine ⟨?_, fun _ => after.trans before.symm⟩
        rintro (same | ⟨listed, -⟩ | ⟨d, meant, same⟩)
        · exact absurd same own
        · exact absurd listed declared
        · exact absurd ((find?_name (before.symm.trans meant)).symm.trans same) leads

/-- No name means a command that was taken out, no alias leads to its name, and the names that meant
another command still mean it. -/
theorem Sound.lookup_remove (sound : Sound ⟨r, events⟩) (distinct : r.Distinct)
    (taken : r.removed? n = some k) :
    r.lookup n = some k ∧ (∀ m, (r.remove n).lookup m ≠ some k) ∧
      (∀ e ∈ (r.remove n).aliases, e.2 ≠ k.name) ∧
      ∀ m d, r.lookup m = some d → d ≠ k → (r.remove n).lookup m = some d := by
  obtain ⟨target, stands, there⟩ := Option.bind_eq_some_iff.mp taken
  have named : k.name = target := find?_name there
  have left := sound.removed stands
  refine ⟨(sound.lookup_eq n).trans taken, fun m meant => ?_, fun e member => ?_,
    fun m d meant other => ?_⟩
  · have after := left.lookup_tables m
    dsimp only at after
    rw [meant] at after
    have gone {x : String} : (r.remove n).find? x ≠ some k := by
      intro found
      have same : x = target := (find?_name found).symm.trans named
      rw [find?_remove stands, if_pos same] at found
      cases found
    rcases Option.or_eq_some_iff.mp after.symm with command | ⟨-, alias_⟩
    · exact gone command
    · obtain ⟨x, -, found⟩ := Option.bind_eq_some_iff.mp alias_
      exact gone found
  · rw [named]
    rw [remove, stands] at member
    simpa using (List.mem_filter.mp member).2
  · have before := sound.lookup_tables m
    have after := left.lookup_tables m
    dsimp only at before after
    rw [find?_remove stands, aliases_remove distinct stands] at after
    rw [meant] at before
    have stays {x : String} (found : r.find? x = some d) :
        x ≠ target ∧ (r.remove n).find? x = some d := by
      have apart : x ≠ target := by
        rintro rfl
        exact other (Option.some.inj (found.symm.trans there))
      exact ⟨apart, by rw [find?_remove stands, if_neg apart, found]⟩
    rcases Option.or_eq_some_iff.mp before.symm with command | ⟨free, alias_⟩
    · rw [after, if_neg (stays command).1, command, Option.some_or]
    · obtain ⟨x, entry, found⟩ := Option.bind_eq_some_iff.mp alias_
      obtain ⟨apart, kept⟩ := stays found
      rw [after, free, ite_self, Option.none_or, entry, Option.filter_some,
        if_pos (bne_iff_ne.mpr apart), Option.bind_some, kept]

/-- After any calls, a command that is registered is meant by its own name, by its aliases that no
command has for a name and by the names that meant the command in whose place it comes, and the
other names mean what they meant; a command that is removed is meant by no name, no alias leads to
its name, and the names that meant another command still mean it. -/
theorem names_after_change {calls : List Call} (whole : ∀ c, .register c ∈ calls → c.name ≠ "")
    (reached : (History.run calls).registry = r) :
    (∀ k m, k.name ≠ "" →
      (r.Takes k m → (r.register k).lookup m = some k) ∧
      (¬ r.Takes k m → (r.register k).lookup m = r.lookup m)) ∧
    ∀ n k, r.removed? n = some k →
      r.lookup n = some k ∧ (∀ m, (r.remove n).lookup m ≠ some k) ∧
      (∀ e ∈ (r.remove n).aliases, e.2 ≠ k.name) ∧
      ∀ m d, r.lookup m = some d → d ≠ k → (r.remove n).lookup m = some d := by
  have sound := Sound.run calls whole
  have distinct := Distinct.run calls
  cases ran : History.run calls with
  | mk r' events =>
    rw [ran] at sound distinct reached
    obtain rfl : r' = r := reached
    exact ⟨fun k m named => sound.lookup_register named m,
      fun n k taken => sound.lookup_remove distinct taken⟩

/-- Two commands with aliases of their own and one alias made later. -/
def shared : List Call := [
  .register { name := "ls", aliases := ["dir", "list"] },
  .register { name := "cd" },
  .makeAlias "up" "cd"]

/-- A command that has another's alias for its name, and declares a third one's alias and name. -/
def newcomer : Command := { name := "dir", aliases := ["up", "cd"] }

theorem newcomer_takes_names : (∀ c, .register c ∈ shared → c.name ≠ "") ∧
    ∃ r ls, (History.run shared).registry = r ∧ newcomer.name ≠ "" ∧
      (r.register newcomer).lookup "dir" = some newcomer ∧
      (r.register newcomer).lookup "up" = some newcomer ∧
      (r.register newcomer).lookup "cd" = r.lookup "cd" ∧
      r.removed? "list" = some ls ∧ (∀ m, (r.remove "list").lookup m ≠ some ls) ∧
      (r.remove "list").lookup "up" = r.lookup "up" := by
  have whole : ∀ c, .register c ∈ shared → c.name ≠ "" := by
    intro c member
    simp only [shared, List.mem_cons, reduceCtorEq, Call.register.injEq, List.not_mem_nil,
      or_false] at member
    rcases member with rfl | rfl <;> decide
  obtain ⟨r, reached⟩ : ∃ r, (History.run shared).registry = r := ⟨_, rfl⟩
  have free : r.hasCommand "up" = false := by
    rw [← reached]
    decide +kernel
  have meanings : (r.lookup "cd").map (·.name) = some "cd" ∧
      (r.lookup "up").map (·.name) = some "cd" ∧ r.hasCommand "cd" = true ∧
      (r.removed? "list").map (·.name) = some "ls" := by
    rw [← reached]
    decide +kernel
  obtain ⟨own, up, known, list⟩ := meanings
  obtain ⟨ls, taken, lsName⟩ := Option.map_eq_some_iff.mp list
  obtain ⟨cd, meant, cdName⟩ := Option.map_eq_some_iff.mp up
  have kept : ¬ r.Takes newcomer "cd" := by
    rintro (same | ⟨-, other⟩ | ⟨c, found, same⟩)
    · exact absurd same (by decide)
    · exact absurd (known.symm.trans other) (by decide)
    · rw [found, Option.map_some, same] at own
      exact absurd own (by decide)
  have other : cd ≠ ls := fun same => absurd (cdName.symm.trans (same ▸ lsName)) (by decide)
  obtain ⟨registered, removed⟩ := names_after_change whole reached
  obtain ⟨-, gone, -, others⟩ := removed "list" ls taken
  refine ⟨whole, r, ls, reached, by decide, ?_, ?_, ?_, taken, gone, ?_⟩
  · exact (registered newcomer "dir" (by decide)).1 (.inl rfl)
  · exact (registered newcomer "up" (by decide)).1 (.inr (.inl ⟨by decide, free⟩))
  · exact (registered newcomer "cd" (by decide)).2 kept
  · rw [meant, others "up" cd meant other]

end Registry

end NestShell

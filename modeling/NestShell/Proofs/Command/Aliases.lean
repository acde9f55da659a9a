import NestShell.Proofs.Command.Registry

/-!
# What an alias stands for

The list of aliases is read from the alias table alone, while a name is looked up among the commands
first. The two views meet in the names: no two commands share a name, and no name is an alias twice.
An alias over the name of a command stays in the table, but the command is found before it.
-/

namespace NestShell

namespace Registry

variable {r r' : Registry} {c d : Command} {a n name line : String}

/-- No two commands and no two aliases have one name. -/
structure Distinct (r : Registry) : Prop where
  names : r.commandNames.Nodup
  keys : (r.aliases.map Prod.fst).Nodup

namespace Distinct

theorem aliasMade (distinct : r.Distinct) (made : r.alias? name n = some r') : r'.Distinct := by
  unfold alias? at made
  dsimp only at made
  split at made
  · cases made
  · split at made
    · cases made
      exact ⟨distinct.names, Table.nodup_erase distinct.keys name⟩
    · cases made
      exact ⟨distinct.names, Table.nodup_set distinct.keys name _⟩

theorem aliasTried (distinct : r.Distinct) (name n : String) :
    ((r.alias? name n).getD r).Distinct := by
  cases made : r.alias? name n with
  | none => exact distinct
  | some r' => exact distinct.aliasMade made

theorem aliasesTried (distinct : r.Distinct) (as : List String) (n : String) :
    (as.foldl (fun r a => (r.alias? a n).getD r) r).Distinct := by
  induction as generalizing r with
  | nil => exact distinct
  | cons a as ih => exact ih (distinct.aliasTried a n)

theorem registered (distinct : r.Distinct) (c : Command) : (r.register c).Distinct := by
  have start : Distinct ⟨put c r.commands, Table.erase c.name r.aliases⟩ := by
    refine ⟨?_, Table.nodup_erase distinct.keys c.name⟩
    rw [commandNames, names_put]
    exact Table.nodup_added distinct.names c.name
  exact start.aliasesTried c.aliases c.name

theorem removed (distinct : r.Distinct) (n : String) : (r.remove n).Distinct := by
  unfold remove
  split
  · exact distinct
  · exact ⟨distinct.names.sublist (List.filter_sublist.map _),
      distinct.keys.sublist (List.filter_sublist.map _)⟩

theorem performed (distinct : r.Distinct) (call : Call) : (call.perform r).Distinct := by
  cases call with
  | register c => exact distinct.registered c
  | makeAlias name n => exact distinct.aliasTried name n
  | dropAlias name => exact ⟨distinct.names, Table.nodup_erase distinct.keys name⟩
  | remove n => exact distinct.removed n

theorem run (calls : List Call) : (History.run calls).registry.Distinct := by
  induction calls using List.reverseRecOn with
  | nil => exact ⟨.nil, .nil⟩
  | append_singleton calls call ih =>
    rw [History.run, List.foldl_append]
    exact ih.performed call

theorem find?_eq (distinct : r.Distinct) (member : c ∈ r.commands) : r.find? c.name = some c := by
  have known : r.hasCommand c.name = true := hasCommand_iff.mpr (List.mem_map_of_mem member)
  obtain ⟨d, found⟩ := Option.isSome_iff_exists.mp known
  have same : d.name = c.name := by simpa using List.find?_some found
  rw [found, List.inj_on_of_nodup_map distinct.names (List.mem_of_find?_eq_some found) member same]

theorem lookup_of_canonical? (distinct : r.Distinct) (member : c ∈ r.commands)
    (whole : c.name ≠ "") (stands : r.canonical? n = some c.name) : r.lookup n = some c := by
  rw [lookup, stands, Option.filter_some, if_pos (by simpa using whole), Option.bind_some,
    distinct.find?_eq member]

theorem lookup_name (distinct : r.Distinct) (member : c ∈ r.commands) (whole : c.name ≠ "") :
    r.lookup c.name = some c :=
  distinct.lookup_of_canonical? member whole
    (canonical?_of_hasCommand (hasCommand_iff.mpr (List.mem_map_of_mem member)))

/-- What the aliases of a command stand for in the table. -/
theorem lookup_of_mem_aliasesFor (distinct : r.Distinct) (member : c ∈ r.commands)
    (alias_ : a ∈ r.aliasesFor c.name) : r.aliases.lookup a = some c.name := by
  have known : r.hasCommand c.name = true := hasCommand_iff.mpr (List.mem_map_of_mem member)
  rw [aliasesFor, canonical?_of_hasCommand known] at alias_
  obtain ⟨⟨key, target⟩, entry, rfl⟩ := List.mem_map.mp alias_
  obtain ⟨inTable, target_eq⟩ := List.mem_filter.mp entry
  obtain rfl : target = c.name := by simpa using target_eq
  exact Table.lookup_of_mem_nodup distinct.keys inTable

theorem lookup_alias_free (distinct : r.Distinct) (member : c ∈ r.commands) (whole : c.name ≠ "")
    (alias_ : a ∈ r.aliasesFor c.name) (free : r.hasCommand a = false) : r.lookup a = some c := by
  have known : r.hasCommand c.name = true := hasCommand_iff.mpr (List.mem_map_of_mem member)
  refine distinct.lookup_of_canonical? member whole ?_
  rw [canonical?, if_neg (by simp [free]), distinct.lookup_of_mem_aliasesFor member alias_,
    Option.filter_some, if_pos known]

end Distinct

theorem splitFirst_empty : Text.splitFirst "" = ("", "") := by decide +kernel

/-- A line goes to the command that its first word is looked up to. -/
theorem match?_of_lookup (first : (Text.splitFirst (Text.trim line)).1 = n) (word : n ≠ "")
    (found : r.lookup n = some c) :
    r.match? line = some ⟨c, n, (Text.splitFirst (Text.trim line)).2⟩ := by
  have filled : (Text.trim line).isEmpty = false := by
    by_contra blank
    have empty : Text.trim line = "" := by simpa using blank
    rw [empty, splitFirst_empty] at first
    exact word first.symm
  unfold match?
  dsimp only
  rw [filled, first, found]
  rfl

theorem match?_of_find? (first : (Text.splitFirst (Text.trim line)).1 = n) (word : n ≠ "")
    (known : r.find? n = some c) :
    r.match? line = some ⟨c, n, (Text.splitFirst (Text.trim line)).2⟩ := by
  have has : r.hasCommand n = true := by rw [hasCommand, known]; rfl
  refine match?_of_lookup first word ?_
  rw [lookup, canonical?_of_hasCommand has, Option.filter_some, if_pos (by simpa using word)]
  exact known

/-- A line whose first word is no name goes to the only pattern that there is, if it takes it. -/
theorem match?_of_pattern {line rest : String} (filled : (Text.trim line).isEmpty = false)
    (unknown : r.lookup (Text.splitFirst (Text.trim line)).1 = none) (only : r.patterns = [c])
    (accepts : c.matchPattern? (Text.trim line) = some rest) :
    r.match? line = some ⟨c, (Text.splitFirst (Text.trim line)).1, rest⟩ := by
  unfold match?
  dsimp only
  rw [filled, if_neg Bool.false_ne_true, unknown, only]
  simp only [List.findSome?_cons, accepts, Option.map_some]

/-- After any calls, an alias that is listed for a command is looked up to that command, unless a
command has the alias for its own name: then it is looked up to the command of that name. A line
that begins with the alias goes to the command that the alias is looked up to. -/
theorem run_aliases_stand {calls : List Call} (reached : (History.run calls).registry = r)
    (member : c ∈ r.commands) (whole : c.name ≠ "") (listed : a ∈ r.aliasesFor c.name) :
    ((∀ d ∈ r.commands, d.name ≠ a) → r.lookup a = some c) ∧
    (∀ d ∈ r.commands, d.name = a → a ≠ "" → r.lookup a = some d) ∧
    ∀ line, (Text.splitFirst (Text.trim line)).1 = a → a ≠ "" →
      ∃ d, r.lookup a = some d ∧
        r.match? line = some ⟨d, a, (Text.splitFirst (Text.trim line)).2⟩ := by
  have distinct : r.Distinct := reached ▸ Distinct.run calls
  have free : (∀ d ∈ r.commands, d.name ≠ a) → r.lookup a = some c := by
    intro others
    refine distinct.lookup_alias_free member whole listed (Bool.eq_false_iff.mpr fun known => ?_)
    obtain ⟨d, other, same⟩ := List.mem_map.mp (hasCommand_iff.mp known)
    exact others d other same
  have shadowed : ∀ d ∈ r.commands, d.name = a → a ≠ "" → r.lookup a = some d := by
    rintro d other rfl word
    exact distinct.lookup_name other word
  refine ⟨free, shadowed, fun line first word => ?_⟩
  by_cases own : ∃ d ∈ r.commands, d.name = a
  · obtain ⟨d, other, same⟩ := own
    have found := shadowed d other same word
    exact ⟨d, found, match?_of_lookup first word found⟩
  · push Not at own
    exact ⟨c, free own, match?_of_lookup first word (free own)⟩

/-- An alias over a command, beside one that no command has for a name. -/
def overlaid : List Call := [
  .register { name := "a" },
  .register { name := "b", aliases := ["a", "c"] }]

theorem overlaid_aliases_stand :
    ∃ r b, (History.run overlaid).registry = r ∧ b ∈ r.commands ∧ b.name = "b" ∧
      "a" ∈ r.aliasesFor "b" ∧ "c" ∈ r.aliasesFor "b" ∧ r.lookup "c" = some b ∧
      (∃ d, r.lookup "c" = some d ∧ r.match? " c  now" = some ⟨d, "c", "now"⟩) ∧
      ∃ d ∈ r.commands, d.name = "a" ∧ r.lookup "a" = some d := by
  have names : (History.run overlaid).registry.commands.map (·.name) = ["a", "b"] := by
    decide +kernel
  have aliases : (History.run overlaid).registry.aliasesFor "b" = ["a", "c"] := by decide +kernel
  obtain ⟨r, reached⟩ : ∃ r, (History.run overlaid).registry = r := ⟨_, rfl⟩
  rw [reached] at names aliases
  obtain ⟨d, first, dName⟩ := List.mem_map.mp (names ▸ List.mem_cons_self : "a" ∈ _)
  obtain ⟨b, second, bName⟩ := List.mem_map.mp (names ▸ by simp : "b" ∈ r.commands.map (·.name))
  have whole : b.name ≠ "" := by rw [bName]; decide
  have listed : ∀ x ∈ ["a", "c"], x ∈ r.aliasesFor b.name := by
    intro x known
    rwa [bName, aliases]
  obtain ⟨free, -, typed⟩ := run_aliases_stand reached second whole (listed "c" (by simp))
  obtain ⟨-, shadowed, -⟩ := run_aliases_stand reached second whole (listed "a" (by simp))
  refine ⟨r, b, reached, second, bName, by simp [aliases], by simp [aliases], free ?_,
    ?_, d, first, dName, shadowed d first dName (by decide)⟩
  · intro e member same
    have : e.name ∈ ["a", "b"] := names ▸ List.mem_map_of_mem member
    rw [same] at this
    exact absurd this (by decide)
  · obtain ⟨e, found, goes⟩ := typed " c  now" (by decide +kernel) (by decide)
    have rest : (Text.splitFirst (Text.trim " c  now")).2 = "now" := by decide +kernel
    exact ⟨e, found, goes.trans (by rw [rest])⟩

/-- An alias of the command that has no name. -/
def unnamed : List Call := [.register { name := "" }, .makeAlias "x" ""]

/-- Neither an alias over another command nor an alias of the command without a name is looked up to
the command for which it is listed. -/
theorem listed_alias_missed :
    (∃ c ∈ (History.run overlaid).registry.commands,
      "a" ∈ (History.run overlaid).registry.aliasesFor c.name ∧
      (History.run overlaid).registry.lookup "a" ≠ some c) ∧
    ∃ c ∈ (History.run unnamed).registry.commands,
      "x" ∈ (History.run unnamed).registry.aliasesFor c.name ∧
      (History.run unnamed).registry.lookup "x" ≠ some c := by
  have looked : ((History.run overlaid).registry.lookup "a").map (·.name) = some "a" := by
    decide +kernel
  have none : ((History.run unnamed).registry.lookup "x").map (·.name) = none := by decide +kernel
  refine ⟨⟨{ name := "b", aliases := ["a", "c"] }, ?_, ?_, fun same => ?_⟩,
    ⟨{ name := "" }, ?_, ?_, fun same => ?_⟩⟩
  · exact List.mem_cons_of_mem _ List.mem_cons_self
  · decide +kernel
  · rw [same] at looked
    exact absurd looked (by decide)
  · exact List.mem_cons_self
  · decide +kernel
  · rw [same] at none
    cases none

end Registry

end NestShell

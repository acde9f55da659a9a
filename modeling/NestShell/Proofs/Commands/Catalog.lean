import NestShell.Commands.Catalog

/-!
# The catalog of commands

A line's command is one of the registry, and the commands of the catalog have built-in bodies.
-/

namespace NestShell

theorem Registry.mem_of_lookup {r : Registry} {name : String} {c : Command}
    (h : r.lookup name = some c) : c ∈ r.commands := by
  obtain ⟨n, -, found⟩ := Option.bind_eq_some_iff.mp h
  exact List.mem_of_find?_eq_some found

theorem Registry.mem_of_match? {r : Registry} {line : String} {m : Registry.Match}
    (h : r.match? line = some m) : m.command ∈ r.commands := by
  unfold Registry.match? at h
  dsimp only at h
  split at h
  · cases h
  · split at h
    · next c known =>
      cases h
      exact Registry.mem_of_lookup known
    · obtain ⟨c, member, accepts⟩ := List.exists_of_findSome?_eq_some h
      obtain ⟨rest, -, rfl⟩ := Option.map_eq_some_iff.mp accepts
      exact (List.mem_filter.mp member).1

namespace Commands

/-- The built-in body of a command, if it has one. -/
def builtin? (c : Command) : Option Command.Builtin :=
  match c.body with
  | .builtin b => some b
  | _ => none

theorem body_of_builtin? {c : Command} {b : Command.Builtin} (h : builtin? c = some b) :
    c.body = .builtin b := by
  unfold builtin? at h
  split at h
  · cases h
    assumption
  · cases h

theorem builtin_of_mem {c : Command} (h : c ∈ registry.commands) : ∃ b, c.body = .builtin b := by
  have all : registry.commands.all fun c => (builtin? c).isSome := by decide +kernel
  obtain ⟨b, known⟩ := Option.isSome_iff_exists.mp (List.all_eq_true.mp all c h)
  exact ⟨b, body_of_builtin? known⟩

/-- Only `cd` keeps the value that its body gives. -/
theorem body_of_keepsValue {c : Command} (h : c ∈ registry.commands) (keeps : c.keepsValue = true) :
    c.body = .builtin .cd := by
  have all : registry.commands.all fun c => !c.keepsValue || builtin? c == some .cd := by
    decide +kernel
  have this := List.all_eq_true.mp all c h
  simp only [keeps, Bool.not_true, Bool.false_or, beq_iff_eq] at this
  exact body_of_builtin? this

/-- The names of the commands that may leave sessions. -/
def nameOf : Command.Builtin → Option String
  | .exit => some "exit"
  | .exitAll => some "exit-all"
  | .cd => some "cd"
  | .jumpTo => some "jump-to"
  | _ => none

theorem name_of_body {c : Command} (h : c ∈ registry.commands) {b : Command.Builtin}
    (body : c.body = .builtin b) {name : String} (known : nameOf b = some name := by rfl) :
    c.name = name := by
  have all : registry.commands.all fun c => ((builtin? c).bind nameOf).all (c.name == ·) := by
    decide +kernel
  have this := List.all_eq_true.mp all c h
  simpa [builtin?, body, known] using this

/-- Each of these names is that of one body. -/
theorem body_of_name {c : Command} (h : c ∈ registry.commands) {b : Command.Builtin}
    (named : nameOf b = some c.name) : c.body = .builtin b := by
  have all : registry.commands.all fun c => [.exit, .exitAll, .cd, .jumpTo].all fun b =>
      nameOf b != some c.name || builtin? c == some b := by
    decide +kernel
  have leaves : b ∈ [Command.Builtin.exit, .exitAll, .cd, .jumpTo] := by
    cases b <;> first | cases named | simp
  have this := List.all_eq_true.mp (List.all_eq_true.mp all c h) b leaves
  simp only [named, bne_self_eq_false, Bool.false_or, beq_iff_eq] at this
  exact body_of_builtin? this

end Commands

end NestShell

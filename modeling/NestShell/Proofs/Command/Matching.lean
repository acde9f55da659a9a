import NestShell.Proofs.Command.Change

/-!
# Which command a line goes to

A line goes to the command that its first word means. A line whose first word means none goes to
the first command whose pattern takes it, in the order in which the commands were registered. A new
command comes behind all others, and its names mean nothing yet: as long as none of them is the
first word of a line, the line goes where it went.
-/

namespace NestShell

namespace Registry

open Text

variable {r : Registry} {c p : Command} {m : Match} {line n word : String}

/-- The first word of a line means a command, or no command and then a pattern takes the line. -/
inductive Goes (r : Registry) (line : String) : Match → Prop where
  | meant {c : Command} : r.lookup (splitFirst (trim line)).1 = some c →
      Goes r line ⟨c, (splitFirst (trim line)).1, (splitFirst (trim line)).2⟩
  | taken {before after : List Command} {c : Command} {rest : String} :
      r.lookup (splitFirst (trim line)).1 = none → r.patterns = before ++ c :: after →
      (∀ d ∈ before, d.matchPattern? (trim line) = none) →
      c.matchPattern? (trim line) = some rest →
      Goes r line ⟨c, (splitFirst (trim line)).1, rest⟩

theorem match?_eq_some_iff :
    r.match? line = some m ↔ (trim line).isEmpty = false ∧ Goes r line m := by
  unfold match?
  dsimp only
  by_cases blank : (trim line).isEmpty = true
  · simp [blank]
  · rw [Bool.eq_false_iff.mpr blank, if_neg Bool.false_ne_true]
    refine Iff.trans ?_ (and_iff_right rfl).symm
    cases meaning : r.lookup (splitFirst (trim line)).1 with
    | some c =>
      constructor
      · rintro ⟨⟩
        exact .meant meaning
      · rintro (⟨same⟩ | ⟨none_⟩)
        · rw [Option.some.inj (meaning.symm.trans same)]
        · cases meaning.symm.trans none_
    | none =>
      dsimp only
      rw [List.findSome?_eq_some_iff]
      constructor
      · rintro ⟨before, c, after, order, accepts, others⟩
        obtain ⟨rest, takes, rfl⟩ := Option.map_eq_some_iff.mp accepts
        exact .taken meaning order (fun d member => by simpa using others d member) takes
      · rintro (⟨same⟩ | ⟨-, order, others, takes⟩)
        · cases meaning.symm.trans same
        · exact ⟨_, _, _, order, by rw [takes, Option.map_some],
            fun d member => by rw [others d member, Option.map_none]⟩

/-! ## A command with new names -/

/-- A command's name and aliases are no names yet, and none of them is the word. -/
def Newcomer (word : String) (r : Registry) (p : Command) : Prop :=
  ∀ n ∈ p.name :: p.aliases, n ∉ r.names ∧ n ≠ word

theorem put_new {cs : List Command} (new : c.name ∉ cs.map (·.name)) : put c cs = cs ++ [c] := by
  induction cs with
  | nil => rfl
  | cons d cs ih =>
    rw [List.map_cons, List.mem_cons, not_or] at new
    rw [put, if_neg (by simpa using Ne.symm new.1), ih new.2, List.cons_append]

section Newcomer

variable (new : Newcomer word r p)
include new

theorem Newcomer.unlisted : p.name ∉ r.commandNames :=
  fun known => (new p.name List.mem_cons_self).1 (List.mem_append_left _ known)

theorem Newcomer.patterns_register :
    (r.register p).patterns = r.patterns ++ [p].filter (·.pattern.isSome) := by
  have commands : (r.register p).commands = r.commands ++ [p] := by
    rw [register, ((owns_put r p).aliased p.aliases).2.1]
    exact put_new new.unlisted
  rw [patterns, commands, List.filter_append, patterns]

/-- The word means what it meant: it is no name of the new command, and no alias led to one. -/
theorem Newcomer.lookup_register (grounded : r.Grounded) :
    (r.register p).lookup word = r.lookup word := by
  have unnamed : word ≠ p.name := (new p.name List.mem_cons_self).2.symm
  have undeclared : word ∉ p.aliases := fun listed =>
    (new word (List.mem_cons_of_mem _ listed)).2 rfl
  have kept {n : String} (known : r.hasCommand n = true) : (r.register p).find? n = r.find? n := by
    rw [find?_register, if_neg]
    rintro rfl
    exact new.unlisted (hasCommand_iff.mp known)
  have entry : (r.register p).aliases.lookup word = r.aliases.lookup word := by
    rw [aliases_register, if_neg unnamed, if_neg undeclared]
  have own : (r.register p).hasCommand word = r.hasCommand word := by
    rw [hasCommand, hasCommand, find?_register, if_neg unnamed]
  have stands : (r.register p).canonical? word = r.canonical? word := by
    rw [canonical?, canonical?, own, entry]
    split
    · rfl
    · cases leads : r.aliases.lookup word with
      | none => rfl
      | some target =>
        have known := grounded.targets _ (Table.mem_of_lookup leads)
        rw [Option.filter_some, Option.filter_some, if_pos known, if_pos]
        rw [hasCommand, kept known]
        exact known
  rw [lookup, lookup, stands]
  cases canonical : r.canonical? word with
  | none => rfl
  | some n =>
    have known := hasCommand_of_canonical? canonical
    rw [Option.filter_some]
    split
    · exact kept known
    · rfl

end Newcomer

theorem Newcomer.goes (grounded : r.Grounded) (new : Newcomer (splitFirst (trim line)).1 r p)
    (goes : Goes r line m) : Goes (r.register p) line m := by
  have word := new.lookup_register grounded
  cases goes with
  | meant same => exact .meant (word.trans same)
  | taken none_ order others takes =>
    have behind := new.patterns_register
    rw [order, List.append_assoc, List.cons_append] at behind
    exact .taken (word.trans none_) behind others takes

/-- Commands registered one after another, each with names that are new when it comes. -/
inductive Newcomers (word : String) : Registry → List Command → Prop where
  | nil {r : Registry} : Newcomers word r []
  | cons {r : Registry} {p : Command} {ps : List Command} :
      Newcomer word r p → Newcomers word (r.register p) ps → Newcomers word r (p :: ps)

theorem Newcomers.goes (grounded : r.Grounded) {ps : List Command}
    (new : Newcomers (splitFirst (trim line)).1 r ps) (goes : Goes r line m) :
    Goes (ps.foldl register r) line m := by
  induction ps generalizing r with
  | nil => exact goes
  | cons p ps ih =>
    cases new with
    | cons first later => exact ih (grounded.registered p) later (first.goes grounded goes)

/-! ## The order of patterns -/

/-- Commands with patterns stand in the order in which they came. -/
theorem Arranged.patterns {h : History} (arranged : Arranged h) :
    h.registry.patterns.Pairwise fun c d => Before h.events c.name d.name :=
  (List.pairwise_map.mp arranged.ordered).filter _

/-- After any calls, a line that goes to a command does so because its first word means the command,
or else because the command's pattern takes it; then the first word means nothing, and every other
command whose pattern takes the line came later. Further commands, however many, change neither the
command nor the word nor what is left for the command, as long as their names are new and not the
first word. -/
theorem match_outlasts_newcomers {calls : List Call} {events : List Event}
    (ran : History.run calls = ⟨r, events⟩) (found : r.match? line = some m) :
    m.word = (splitFirst (trim line)).1 ∧
    (r.lookup m.word = some m.command ∧ m.remainder = (splitFirst (trim line)).2 ∨
      r.lookup m.word = none ∧ m.command.matchPattern? (trim line) = some m.remainder ∧
        ∀ c ∈ r.patterns, (c.matchPattern? (trim line)).isSome = true →
          c = m.command ∨ Before events m.command.name c.name) ∧
    ∀ ps, Newcomers m.word r ps → (ps.foldl register r).match? line = some m := by
  obtain ⟨filled, goes⟩ := match?_eq_some_iff.mp found
  have word : m.word = (splitFirst (trim line)).1 := by cases goes <;> rfl
  refine ⟨word, ?_, fun ps new => ?_⟩
  · cases goes with
    | meant same => exact .inl ⟨same, rfl⟩
    | @taken before after c rest none_ order others takes =>
      refine .inr ⟨none_, takes, fun d member accepts => ?_⟩
      have ordered : r.patterns.Pairwise fun c d => Before events c.name d.name := by
        have arranged := (Arranged.run calls).patterns
        rwa [ran] at arranged
      rw [order] at member ordered
      rcases List.mem_append.mp member with earlier | here
      · rw [others d earlier] at accepts
        cases accepts
      · rcases List.mem_cons.mp here with same | later
        · exact .inl same
        · have behind := (List.pairwise_append.mp ordered).2.1
          exact .inr ((List.pairwise_cons.mp behind).1 d later)
  · have grounded : r.Grounded := by
      have grounded := Grounded.run calls
      rwa [ran] at grounded
    rw [word] at new
    exact match?_eq_some_iff.mpr ⟨filled, new.goes grounded goes⟩

/-- A pattern of a point in front. -/
def pointed : Pattern := { nodes := [.char 46] }

/-- Two commands take lines with a point in front; the one that was first was registered again. -/
def pointing : List Call := [
  .register { name := "ls", aliases := ["dir"] },
  .register { name := "first", pattern := some pointed },
  .register { name := "second", pattern := some pointed },
  .register { name := "first", pattern := some pointed, description := "again" }]

/-- Commands that would take any line. -/
def takers : List Command := [
  { name := "third", aliases := ["x", "list"], pattern := some { nodes := [] } },
  { name := "fourth", pattern := some { nodes := [] } }]

theorem first_pattern_outlasts_takers : ∃ r events m, History.run pointing = ⟨r, events⟩ ∧
    r.match? ".x y" = some m ∧ m.command.description = "again" ∧ m.remainder = "x y" ∧
      Before events "first" "second" ∧ Newcomers m.word r takers ∧
      (takers.foldl register r).match? ".x y" = some m := by
  have told : ((History.run pointing).registry.match? ".x y").map
      (fun m => (m.command.name, m.command.description, m.word, m.remainder)) =
        some ("first", "again", ".x", "x y") := by
    decide +kernel
  have second : ((History.run pointing).registry.patterns.any fun c =>
      c.name == "second" && (c.matchPattern? (trim ".x y")).isSome) = true := by
    decide +kernel
  have unmeant : ((History.run pointing).registry.lookup ".x").isNone = true := by decide +kernel
  have new : Newcomers ".x" (History.run pointing).registry takers := by
    refine .cons ?_ (.cons ?_ .nil)
    · unfold Newcomer
      decide +kernel
    · unfold Newcomer
      decide +kernel
  cases ran : History.run pointing with
  | mk r events =>
    rw [ran] at told second unmeant new
    obtain ⟨m, found, parts⟩ := Option.map_eq_some_iff.mp told
    obtain ⟨name, again, word, rest⟩ : m.command.name = "first" ∧
        m.command.description = "again" ∧ m.word = ".x" ∧ m.remainder = "x y" := by
      simpa using parts
    obtain ⟨c, listed, both⟩ := List.any_eq_true.mp second
    obtain ⟨named, accepts⟩ :
        c.name = "second" ∧ (c.matchPattern? (trim ".x y")).isSome = true := by simpa using both
    obtain ⟨-, how, stays⟩ := match_outlasts_newcomers ran found
    rw [word] at how stays
    rcases how with ⟨meant, -⟩ | ⟨-, -, order⟩
    · rw [meant] at unmeant
      cases unmeant
    · rcases order c listed accepts with same | before
      · rw [same, name] at named
        exact absurd named (by decide)
      · rw [name, named] at before
        exact ⟨r, events, m, rfl, found, again, rest, before, word ▸ new, stays takers new⟩

end Registry

end NestShell

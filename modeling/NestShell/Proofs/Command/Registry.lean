import NestShell.Command.Registry
import NestShell.Proofs.Table

/-!
# A registry through its calls

A registry is changed by registering and removing commands and by making and dropping aliases, in
any order. Some calls are refused, others find nothing to change. After all of them each alias
stands for a command that is there, and the commands stand in the order in which they came.
-/

namespace NestShell

namespace Registry

variable {r r' : Registry} {c : Command} {n m name target : String}

def commandNames (r : Registry) : List String := r.commands.map (·.name)

theorem hasCommand_iff : r.hasCommand n = true ↔ n ∈ r.commandNames := by
  simp [hasCommand, find?, commandNames]

/-! ## Names and what they stand for -/

theorem hasCommand_of_canonical? (h : r.canonical? n = some m) : r.hasCommand m = true := by
  unfold canonical? at h
  split at h
  · next known => exact Option.some.inj h ▸ known
  · exact (Option.filter_eq_some_iff.mp h).2

theorem canonical?_of_hasCommand (h : r.hasCommand n = true) : r.canonical? n = some n := by
  rw [canonical?, if_pos h]

theorem canonical?_alias (h : r.aliases.lookup n = some target)
    (known : r.hasCommand target = true) : ∃ m, r.canonical? n = some m := by
  unfold canonical?
  split
  · exact ⟨n, rfl⟩
  · exact ⟨target, by rw [h, Option.filter_some, if_pos known]⟩

/-- A name that is not listed stands for no command. -/
theorem lookup_eq_none (unlisted : n ∉ r.names) : r.lookup n = none := by
  unfold names at unlisted
  rw [List.mem_append, not_or, List.mem_map (l := r.aliases)] at unlisted
  obtain ⟨noCommand, noAlias⟩ := unlisted
  have missing : r.hasCommand n = false :=
    Bool.eq_false_iff.mpr fun there => noCommand (hasCommand_iff.mp there)
  have unset : r.aliases.lookup n = none := by
    rw [List.lookup_eq_none_iff]
    exact fun entry member => bne_iff_ne.mpr fun same => noAlias ⟨entry, member, same.symm⟩
  unfold lookup canonical?
  rw [missing, unset]
  rfl

/-! ## Single calls -/

theorem names_put (c : Command) (cs : List Command) : (put c cs).map (·.name) =
    if c.name ∈ cs.map (·.name) then cs.map (·.name) else cs.map (·.name) ++ [c.name] := by
  induction cs with
  | nil => rfl
  | cons d cs ih =>
    by_cases here : d.name = c.name
    · simp [put, here]
    · have other : ¬ c.name = d.name := fun same => here same.symm
      simp only [put, here, beq_iff_eq, if_false, List.map_cons, ih, List.mem_cons, other, false_or]
      split <;> simp

theorem alias?_none : r.alias? name n = none ↔ r.hasCommand (r.targetOf n) = false := by
  unfold alias?
  dsimp only
  cases known : r.hasCommand (r.targetOf n) with
  | false => simp
  | true =>
    simp only [Bool.not_true, Bool.false_eq_true, if_false, Bool.true_eq_false, iff_false]
    split <;> exact nofun

/-- An alias is made only of a command that is there, and changes no other entry. -/
theorem alias?_some (h : r.alias? name n = some r') :
    r.hasCommand (r.targetOf n) = true ∧ r'.commands = r.commands ∧
      (∀ e ∈ r'.aliases, e.2 = r.targetOf n ∨ e ∈ r.aliases) ∧
      (r.aliases.lookup (r.targetOf n) = none → r'.aliases.lookup (r.targetOf n) = none) := by
  unfold alias? at h
  dsimp only at h
  split at h
  · cases h
  · next known =>
    refine ⟨by simpa using known, ?_⟩
    split at h
    · cases h
      refine ⟨rfl, fun e member => .inr (Table.mem_of_mem_erase member), fun free => ?_⟩
      rw [Table.lookup_erase, free, ite_self]
    · next other =>
      cases h
      refine ⟨rfl, fun e member => ?_, fun free => ?_⟩
      · exact (Table.mem_of_mem_set member).imp_left (congrArg Prod.snd)
      · rw [Table.lookup_set, if_neg fun same => other (by simp [same]), free]

/-- A command's name where no alias has it. -/
structure Owns (r : Registry) (n : String) : Prop where
  command : r.hasCommand n = true
  free : r.aliases.lookup n = none

/-- Aliases of a name that is a command's only are never refused. -/
theorem Owns.aliased (h : r.Owns n) (as : List String) :
    as.foldlM (fun r a => r.alias? a n) r = some (as.foldl (fun r a => (r.alias? a n).getD r) r) ∧
    (as.foldl (fun r a => (r.alias? a n).getD r) r).commands = r.commands ∧
    ∀ e ∈ (as.foldl (fun r a => (r.alias? a n).getD r) r).aliases, e.2 = n ∨ e ∈ r.aliases := by
  induction as generalizing r with
  | nil => exact ⟨rfl, rfl, fun _ => .inr⟩
  | cons a as ih =>
    have target : r.targetOf n = n := by rw [targetOf, h.free, Option.getD_none]
    cases made : r.alias? a n with
    | none =>
      have unknown := alias?_none.mp made
      rw [target, h.command] at unknown
      cases unknown
    | some r' =>
      obtain ⟨-, commands, entries, free⟩ := alias?_some made
      rw [target] at entries free
      have known : r'.hasCommand n = true := by
        rw [hasCommand, find?, commands]
        exact h.command
      obtain ⟨all, kept, later⟩ := ih ⟨known, free h.free⟩
      simp only [List.foldlM_cons, List.foldl_cons, made, Option.getD_some]
      exact ⟨all, kept.trans commands, fun e member => (later e member).elim .inl (entries e)⟩

/-- Registering that gives up where an alias is refused. -/
def register? (r : Registry) (c : Command) : Option Registry :=
  c.aliases.foldlM (fun r a => r.alias? a c.name)
    ⟨put c r.commands, Table.erase c.name r.aliases⟩

theorem owns_put (r : Registry) (c : Command) :
    Owns ⟨put c r.commands, Table.erase c.name r.aliases⟩ c.name where
  command := by
    rw [hasCommand_iff, commandNames, names_put]
    split
    · assumption
    · simp
  free := by rw [Table.lookup_erase, if_pos rfl]

theorem register?_eq (r : Registry) (c : Command) : r.register? c = some (r.register c) :=
  ((owns_put r c).aliased c.aliases).1

theorem names_register (r : Registry) (c : Command) : (r.register c).commandNames =
    if c.name ∈ r.commandNames then r.commandNames else r.commandNames ++ [c.name] := by
  rw [commandNames, register, ((owns_put r c).aliased c.aliases).2.1]
  exact names_put c r.commands

theorem targets_register {e : String × String} (member : e ∈ (r.register c).aliases) :
    e.2 = c.name ∨ e ∈ r.aliases :=
  (((owns_put r c).aliased c.aliases).2.2 e member).imp_right Table.mem_of_mem_erase

theorem names_remove (h : r.canonical? n = some m) :
    (r.remove n).commandNames = r.commandNames.filter (· != m) := by
  rw [remove, h, commandNames, commandNames, List.filter_map]
  rfl

/-! ## Any calls -/

/-- What can be done to a registry. -/
inductive Call where
  | register (c : Command)
  | makeAlias (name canonical : String)
  | dropAlias (name : String)
  | remove (name : String)

namespace Call

/-- The registry after a call, which is the same where the call is refused. -/
def perform (r : Registry) : Call → Registry
  | register c => r.register c
  | makeAlias name canonical => (r.alias? name canonical).getD r
  | dropAlias name => r.unalias name
  | remove name => r.remove name

end Call

/-- What becomes of commands. -/
inductive Event where
  | added (name : String)
  | removed (name : String)

/-- The event of a call. An alias may name the command that is removed. -/
def Call.event? (r : Registry) : Call → Option Event
  | register c => some (.added c.name)
  | remove name => (r.canonical? name).map .removed
  | _ => none

/-- A registry, and what became of its commands, the latest first. -/
structure History where
  registry : Registry := {}
  events : List Event := []

namespace History

def after (h : History) (call : Call) : History :=
  ⟨call.perform h.registry, (call.event? h.registry).toList ++ h.events⟩

/-- The history of an empty registry through calls. -/
def run (calls : List Call) : History := calls.foldl after {}

end History

/-- When a command of this name was first added since one was last removed. -/
def firstAdded (n : String) : List Event → Option Nat
  | [] => none
  | .added m :: earlier =>
    if m = n then (firstAdded n earlier).or (some earlier.length) else firstAdded n earlier
  | .removed m :: earlier => if m = n then none else firstAdded n earlier

theorem firstAdded_lt {events : List Event} {i : Nat} (h : firstAdded n events = some i) :
    i < events.length := by
  revert h
  fun_induction firstAdded n events with
  | case1 => exact nofun
  | case2 earlier ih =>
    intro h
    rcases Option.or_eq_some_iff.mp h with before | ⟨-, now⟩
    · exact Nat.lt_succ_of_lt (ih before)
    · exact Option.some.inj now ▸ Nat.lt_succ_self _
  | case3 m earlier other ih => exact fun h => Nat.lt_succ_of_lt (ih h)
  | case4 => exact nofun
  | case5 m earlier other ih => exact fun h => Nat.lt_succ_of_lt (ih h)

theorem firstAdded_of_some {events : List Event} {i : Nat} (h : firstAdded n events = some i) :
    firstAdded n (.added m :: events) = some i := by
  rw [firstAdded, h, Option.some_or, ite_self]

/-- One name was first added before another. -/
def Before (events : List Event) (m n : String) : Prop :=
  ∃ i j, firstAdded m events = some i ∧ firstAdded n events = some j ∧ i < j

theorem Before.ne {events : List Event} (h : Before events m n) : m ≠ n := by
  rintro rfl
  obtain ⟨i, j, first, second, less⟩ := h
  cases first.symm.trans second
  exact Nat.lt_irrefl i less

theorem Before.added {events : List Event} (h : Before events m n) (k : String) :
    Before (.added k :: events) m n := by
  obtain ⟨i, j, first, second, less⟩ := h
  exact ⟨i, j, firstAdded_of_some first, firstAdded_of_some second, less⟩

theorem Before.removed {events : List Event} (h : Before events m n) {k : String} (left : k ≠ m)
    (right : k ≠ n) : Before (.removed k :: events) m n := by
  unfold Before firstAdded
  rw [if_neg left, if_neg right]
  exact h

/-- What holds of a registry after any calls. -/
structure Arranged (h : History) : Prop where
  targets : ∀ e ∈ h.registry.aliases, h.registry.hasCommand e.2 = true
  ordered : h.registry.commandNames.Pairwise (Before h.events)
  standing : ∀ n, n ∈ h.registry.commandNames ↔ (firstAdded n h.events).isSome = true

namespace Arranged

variable {events : List Event}

theorem registered (arranged : Arranged ⟨r, events⟩) (c : Command) :
    Arranged ⟨r.register c, .added c.name :: events⟩ where
  targets e member := by
    rw [hasCommand_iff, names_register]
    rcases targets_register member with own | before
    · rw [own]
      split
      · assumption
      · exact List.mem_append_right _ (List.mem_singleton_self _)
    · have known := hasCommand_iff.mp (arranged.targets e before)
      split
      · exact known
      · exact List.mem_append_left _ known
  ordered := by
    have kept : r.commandNames.Pairwise (Before (.added c.name :: events)) :=
      arranged.ordered.imp fun before => before.added c.name
    rw [names_register]
    split
    · exact kept
    · next new =>
      refine List.pairwise_append.mpr ⟨kept, List.pairwise_singleton _ _, fun m member n last => ?_⟩
      obtain rfl := List.mem_singleton.mp last
      obtain ⟨i, first⟩ := Option.isSome_iff_exists.mp ((arranged.standing m).mp member)
      have none : firstAdded c.name events = none := by
        simpa using mt (arranged.standing c.name).mpr new
      refine ⟨i, events.length, firstAdded_of_some first, ?_, firstAdded_lt first⟩
      rw [firstAdded, if_pos rfl, none, Option.none_or]
  standing n := by
    have names : n ∈ (r.register c).commandNames ↔ n ∈ r.commandNames ∨ n = c.name := by
      rw [names_register]
      split
      · next known => exact ⟨.inl, fun h => h.elim id fun same => same ▸ known⟩
      · rw [List.mem_append, List.mem_singleton]
    rw [names, arranged.standing, firstAdded]
    by_cases own : c.name = n
    · simp [own]
    · rw [if_neg own, or_iff_left (Ne.symm own)]

theorem aliasMade (arranged : Arranged ⟨r, events⟩) (made : r.alias? name n = some r') :
    Arranged ⟨r', events⟩ := by
  obtain ⟨target, commands, entries, -⟩ := alias?_some made
  have names : r'.commandNames = r.commandNames := by rw [commandNames, commands, commandNames]
  refine ⟨fun e member => ?_, names ▸ arranged.ordered, fun n => names ▸ arranged.standing n⟩
  rw [hasCommand_iff, names, ← hasCommand_iff]
  rcases entries e member with own | before
  · exact own ▸ target
  · exact arranged.targets e before

theorem aliasDropped (arranged : Arranged ⟨r, events⟩) (name : String) :
    Arranged ⟨r.unalias name, events⟩ where
  targets e member := arranged.targets e (Table.mem_of_mem_erase member)
  ordered := arranged.ordered
  standing := arranged.standing

theorem removed (arranged : Arranged ⟨r, events⟩) (found : r.canonical? n = some m) :
    Arranged ⟨r.remove n, .removed m :: events⟩ where
  targets e member := by
    have left : e ∈ r.aliases ∧ e.2 ≠ m := by
      simpa [remove, found] using member
    rw [hasCommand_iff, names_remove found, List.mem_filter]
    exact ⟨hasCommand_iff.mp (arranged.targets e left.1), bne_iff_ne.mpr left.2⟩
  ordered := by
    rw [names_remove found]
    refine (arranged.ordered.filter _).imp_of_mem fun first second before => ?_
    have left := bne_iff_ne.mp (List.mem_filter.mp first).2
    have right := bne_iff_ne.mp (List.mem_filter.mp second).2
    exact before.removed left.symm right.symm
  standing k := by
    rw [names_remove found, List.mem_filter, arranged.standing, firstAdded]
    by_cases own : m = k
    · simp [own]
    · simp [own, Ne.symm own]

theorem after {h : History} (arranged : Arranged h) (call : Call) : Arranged (h.after call) := by
  cases call with
  | register c => exact arranged.registered c
  | makeAlias name canonical =>
    cases made : h.registry.alias? name canonical with
    | none => simpa [History.after, Call.perform, Call.event?, made] using arranged
    | some r =>
      simpa [History.after, Call.perform, Call.event?, made] using arranged.aliasMade made
  | dropAlias name => exact arranged.aliasDropped name
  | remove name =>
    cases found : h.registry.canonical? name with
    | none =>
      simpa [History.after, Call.perform, Call.event?, found, Registry.remove] using arranged
    | some m =>
      simpa [History.after, Call.perform, Call.event?, found] using arranged.removed found

theorem run (calls : List Call) : Arranged (History.run calls) := by
  induction calls using List.reverseRecOn with
  | nil => exact ⟨nofun, .nil, fun n => by simp [History.run, commandNames, firstAdded]⟩
  | append_singleton calls call ih =>
    rw [History.run, List.foldl_append]
    exact ih.after call

end Arranged

/-- What holds besides after calls that register no command without a name. -/
structure Sound (h : History) : Prop extends Arranged h where
  named : "" ∉ h.registry.commandNames

namespace Sound

variable {events : List Event}

theorem registered (sound : Sound ⟨r, events⟩) (c : Command) (whole : c.name ≠ "") :
    Sound ⟨r.register c, .added c.name :: events⟩ where
  toArranged := sound.toArranged.registered c
  named := by
    rw [names_register]
    split
    · exact sound.named
    · simpa [whole.symm] using sound.named

theorem removed (sound : Sound ⟨r, events⟩) (found : r.canonical? n = some m) :
    Sound ⟨r.remove n, .removed m :: events⟩ where
  toArranged := sound.toArranged.removed found
  named := by
    rw [names_remove found]
    exact fun member => sound.named (List.mem_filter.mp member).1

theorem after {h : History} (sound : Sound h) (call : Call)
    (whole : ∀ c, call = .register c → c.name ≠ "") : Sound (h.after call) := by
  refine ⟨sound.toArranged.after call, ?_⟩
  cases call with
  | register c => exact (sound.registered c (whole c rfl)).named
  | makeAlias name canonical =>
    cases made : h.registry.alias? name canonical with
    | none => simpa [History.after, Call.perform, made] using sound.named
    | some r =>
      have same : r.commandNames = h.registry.commandNames :=
        congrArg (List.map Command.name) (alias?_some made).2.1
      simpa [History.after, Call.perform, made, same] using sound.named
  | dropAlias name => exact sound.named
  | remove name =>
    cases found : h.registry.canonical? name with
    | none => simpa [History.after, Call.perform, found, Registry.remove] using sound.named
    | some m => exact (sound.removed found).named

theorem run (calls : List Call) (whole : ∀ c, .register c ∈ calls → c.name ≠ "") :
    Sound (History.run calls) := by
  induction calls using List.reverseRecOn with
  | nil => exact ⟨Arranged.run [], List.not_mem_nil⟩
  | append_singleton calls call ih =>
    rw [History.run, List.foldl_append]
    refine (ih fun c member => whole c (List.mem_append_left _ member)).after call fun c same => ?_
    exact whole c (by simp [same])

variable {h : History}

theorem lookup_eq (sound : Sound h) (n : String) :
    h.registry.lookup n = (h.registry.canonical? n).bind h.registry.find? := by
  rw [lookup]
  cases stands : h.registry.canonical? n with
  | none => rfl
  | some m =>
    have known := hasCommand_iff.mp (hasCommand_of_canonical? stands)
    have whole : m ≠ "" := fun same => sound.named (same ▸ known)
    rw [Option.filter_some, if_pos (by simpa using whole)]

theorem lookup_alias (sound : Sound h) {e : String × String} (member : e ∈ h.registry.aliases) :
    ∃ c, h.registry.lookup e.1 = some c := by
  obtain ⟨target, entry, found⟩ := Table.lookup_of_mem member
  obtain ⟨m, stands⟩ := canonical?_alias found (sound.targets _ entry)
  rw [sound.lookup_eq, stands]
  exact Option.isSome_iff_exists.mp (hasCommand_of_canonical? stands)

theorem refused_iff (sound : Sound h) (name n : String) :
    h.registry.alias? name n = none ↔ h.registry.canonical? n = none := by
  rw [alias?_none, targetOf, canonical?]
  cases found : h.registry.aliases.lookup n with
  | some target =>
    have known : h.registry.hasCommand target = true :=
      sound.targets _ (Table.mem_of_lookup found)
    rw [Option.getD_some, known, Option.filter_some, if_pos known]
    split <;> simp
  | none => simp

end Sound

/-- After any calls each alias stands for a command that is there, what a name stands for stands for
itself, registering is never refused, an alias is refused only where there is nothing that it could
stand for, and no two commands have one name: they stand in the order in which their names were
first added since they were last removed. -/
theorem run_consistent {calls : List Call} (whole : ∀ c, .register c ∈ calls → c.name ≠ "")
    {events : List Event} (ran : History.run calls = ⟨r, events⟩) :
    (∀ e ∈ r.aliases, r.hasCommand e.2 = true ∧ ∃ c, r.lookup e.1 = some c) ∧
    (∀ n m, r.canonical? n = some m → r.canonical? m = some m) ∧
    (∀ n, r.lookup n = (r.canonical? n).bind r.find?) ∧
    (∀ c, r.register? c = some (r.register c)) ∧
    (∀ name n, (r.alias? name n = none ↔ r.canonical? n = none) ∧
      (r.alias? name n = none → (Call.makeAlias name n).perform r = r)) ∧
    r.commandNames.Nodup ∧ r.commandNames.Pairwise (Before events) ∧
    ∀ n, n ∈ r.commandNames ↔ (firstAdded n events).isSome = true := by
  have sound := Sound.run calls whole
  rw [ran] at sound
  refine ⟨fun e member => ⟨sound.targets e member, sound.lookup_alias member⟩,
    fun n m stands => canonical?_of_hasCommand (hasCommand_of_canonical? stands),
    sound.lookup_eq, register?_eq r,
    fun name n => ⟨sound.refused_iff name n, fun refused => ?_⟩,
    sound.ordered.imp Before.ne, sound.ordered, sound.standing⟩
  rw [Call.perform, refused, Option.getD_none]

/-- Registers two commands, gives one of them another's alias, and removes and registers that other
again; two of the calls are refused. -/
def reordered : List Call := [
  .makeAlias "dir" "ls",
  .register { name := "ls", aliases := ["dir", "ls", "cd"] },
  .register { name := "cd" },
  .makeAlias "list" "dir",
  .remove "nothing",
  .remove "list",
  .register { name := "ls", aliases := ["list"] }]

theorem reordered_consistent :
    (∀ c, .register c ∈ reordered → c.name ≠ "") ∧
    ∃ r events, History.run reordered = ⟨r, events⟩ ∧ r.commandNames = ["cd", "ls"] ∧
      r.aliases = [("list", "ls")] ∧ (∃ c, r.lookup "list" = some c) ∧
      firstAdded "ls" events = some 3 ∧ Before events "cd" "ls" := by
  have whole : ∀ c, .register c ∈ reordered → c.name ≠ "" := by
    intro c member
    simp only [reordered, List.mem_cons, reduceCtorEq, Call.register.injEq, false_or,
      List.not_mem_nil, or_false] at member
    rcases member with rfl | rfl | rfl <;> decide
  have names : (History.run reordered).registry.commandNames = ["cd", "ls"] := by decide +kernel
  have aliases : (History.run reordered).registry.aliases = [("list", "ls")] := by decide +kernel
  have place : firstAdded "ls" (History.run reordered).events = some 3 := by decide +kernel
  cases ran : History.run reordered with
  | mk r events =>
    rw [ran] at names aliases place
    obtain ⟨entries, -, -, -, -, -, ordered, -⟩ := run_consistent whole ran
    have alias_ := entries ("list", "ls") (aliases ▸ List.mem_singleton_self _)
    rw [names] at ordered
    exact ⟨whole, r, events, rfl, names, aliases, alias_.2, place, List.pairwise_pair.mp ordered⟩

end Registry

end NestShell

import NestShell.Files.Tree
import NestShell.Proofs.Text.Utf8

/-!
# Trees of files that grow

Making directories takes nothing away: paths lead where they led before, and directories that were
made once need not be made again. A file that can be written can therefore be written again, and
what is read from it is what was written last.
-/

namespace NestShell.Files.Tree

open NestShell.Text

variable {t u v : Tree} {l m : Location}

theorem lookup_others (nodes : List (Location × Node)) :
    (nodes.filter fun e => e.1 != l).lookup m = if m = l then none else nodes.lookup m := by
  induction nodes with
  | nil => exact (ite_self none).symm
  | cons e nodes ih =>
    by_cases gone : e.1 = l
    · rw [List.filter_cons_of_neg (by simpa using gone), ih, List.lookup_cons]
      by_cases same : m = l
      · rw [if_pos same, if_pos same]
      · have other : (m == e.1) = false := by simpa [gone] using same
        rw [if_neg same, if_neg same, other]
    · rw [List.filter_cons_of_pos (by simpa using gone), List.lookup_cons, List.lookup_cons, ih]
      by_cases here : m = e.1
      · have kept : m ≠ l := fun same => gone (here ▸ same)
        rw [if_neg kept, if_neg kept, beq_iff_eq.mpr here]
      · rw [beq_eq_false_iff_ne.mpr here]

theorem node?_put (below : l ≠ []) (n : Node) :
    (t.put l n).node? m = if m = l then some n else t.node? m := by
  by_cases root : m = []
  · subst root
    rw [if_neg below.symm]
    rfl
  · have under : m.isEmpty = false := by simpa using root
    unfold node? put
    rw [under, if_neg Bool.false_ne_true, if_neg Bool.false_ne_true, List.lookup_append,
      lookup_others, List.lookup_cons, List.lookup_nil]
    by_cases same : m = l
    · simp [same]
    · have other : (m == l) = false := by simpa using same
      simp [same, other]

/-! ## Growth -/

/-- One works in the same directory, and directories are still there. -/
structure Extends (t u : Tree) : Prop where
  current : u.current = t.current
  directories : ∀ l, t.node? l = some .directory → u.node? l = some .directory

theorem Extends.refl (t : Tree) : t.Extends t := ⟨rfl, fun _ there => there⟩

theorem Extends.trans (first : t.Extends u) (second : u.Extends v) : t.Extends v :=
  ⟨second.current.trans first.current, fun l there =>
    second.directories l (first.directories l there)⟩

theorem ne_nil_of_node? (other : t.node? l ≠ some .directory) : l ≠ [] := by
  rintro rfl
  exact other rfl

/-- What is put where no directory is takes none away. -/
theorem extends_put (other : t.node? l ≠ some .directory) (n : Node) : t.Extends (t.put l n) := by
  refine ⟨rfl, fun m there => ?_⟩
  have apart : m ≠ l := by
    rintro rfl
    exact other there
  rw [node?_put (ne_nil_of_node? other), if_neg apart, there]

/-! ## Paths -/

theorem follow_extends (grows : t.Extends u) {cs : List String} (found : t.follow l cs = .ok m) :
    u.follow l cs = .ok m := by
  induction cs generalizing l with
  | nil => exact found
  | cons c cs ih =>
    rw [follow] at found ⊢
    split at found
    · cases found
    · next here =>
      rw [grows.directories l here]
      dsimp only
      split at found
      · next stays => rw [if_pos stays, ih found]
      · next goes =>
        rw [if_neg goes]
        split at found
        · next up => rw [if_pos up, ih found]
        · next down =>
          rw [if_neg down]
          split at found
          · cases found
          · next short => rw [if_neg short, ih found]
    · cases found

theorem locate_extends (grows : t.Extends u) {path : String} (found : t.locate path = .ok l) :
    u.locate path = .ok l := by
  unfold locate at found ⊢
  rw [grows.current]
  split at found
  · cases found
  · next filled =>
    rw [if_neg filled]
    split at found
    · next fromRoot => rw [if_pos fromRoot, follow_extends grows found]
    · next fromHere => rw [if_neg fromHere, follow_extends grows found]

/-! ## Directories -/

/-- Directories are only made below a directory. -/
theorem makeFrom_start {cs : List String} (made : t.makeFrom l cs = .ok u) :
    t.node? l = some .directory := by
  cases cs with
  | nil =>
    rw [makeFrom] at made
    split at made
    · next here => simpa [isDirectoryAt] using here
    · cases made
  | cons c cs =>
    rw [makeFrom] at made
    split at made
    · assumption
    · cases made

/-- Making directories takes none away, and wherever those made are, making them again changes
nothing. -/
theorem makeFrom_again {cs : List String} (made : t.makeFrom l cs = .ok u) :
    t.Extends u ∧ ∀ v, u.Extends v → v.makeFrom l cs = .ok v := by
  fun_induction makeFrom t l cs with
  | case1 t l here =>
    have there : t.node? l = some .directory := by simpa [isDirectoryAt] using here
    cases made
    refine ⟨.refl _, fun v grows => ?_⟩
    simp [makeFrom, isDirectoryAt, grows.directories l there]
  | case2 => cases made
  | case3 t l c cs here stays ih =>
    obtain ⟨grows, again⟩ := ih made
    refine ⟨grows, fun v later => ?_⟩
    rw [makeFrom, (grows.trans later).directories l here]
    dsimp only
    rw [if_pos stays, again v later]
  | case4 t l c cs here goes up ih =>
    obtain ⟨grows, again⟩ := ih made
    refine ⟨grows, fun v later => ?_⟩
    rw [makeFrom, (grows.trans later).directories l here]
    dsimp only
    rw [if_neg goes, if_pos up, again v later]
  | case5 => cases made
  | case6 t l c cs here goes down short l' missing ih =>
    have start : t.Extends (t.put l' .directory) := extends_put (by simp [missing]) _
    obtain ⟨grows, again⟩ := ih made
    refine ⟨start.trans grows, fun v later => ?_⟩
    have there : v.node? l' = some .directory :=
      (grows.trans later).directories l' (makeFrom_start made)
    rw [makeFrom, ((start.trans grows).trans later).directories l here]
    dsimp only
    rw [if_neg goes, if_neg down, if_neg short, there]
    exact again v later
  | case7 t l c cs here goes down short l' n present ih =>
    obtain ⟨grows, again⟩ := ih made
    refine ⟨grows, fun v later => ?_⟩
    have there : v.node? l' = some .directory :=
      (grows.trans later).directories l' (makeFrom_start made)
    rw [makeFrom, (grows.trans later).directories l here]
    dsimp only
    rw [if_neg goes, if_neg down, if_neg short, there]
    exact again v later
  | case8 => cases made

theorem failing_eq_ok {α : Type} {path : String} {r : Except Fault α} {a : α} :
    failing path r = .ok a ↔ r = .ok a := by
  cases r with
  | error f => simp [failing]
  | ok b => simp [failing]

theorem makeDirectories_again {path : String} (made : t.makeDirectories path = .ok u) :
    t.Extends u ∧ ∀ v, u.Extends v → v.makeDirectories path = .ok v := by
  obtain ⟨grows, again⟩ := makeFrom_again (failing_eq_ok.mp made)
  refine ⟨grows, fun v later => failing_eq_ok.mpr ?_⟩
  rw [later.current, grows.current]
  exact again v later

/-! ## Files -/

/-- A file is at a path or can be made there, once the directories above it are. A device is none:
what is written to it is gone. -/
def Keeps (t : Tree) (path : String) : Prop :=
  ∃ u l, t.makeDirectories (Path.directoryOf path) = .ok u ∧ u.locate path = .ok l ∧
    (u.node? l = none ∨ ∃ bytes, u.node? l = some (.file bytes))

theorem write_eq {path : String} (found : t.locate path = .ok l)
    (free : t.node? l = none ∨ ∃ bytes, t.node? l = some (.file bytes)) (bytes : List UInt8) :
    t.write path bytes = .ok (t.put l (.file bytes)) := by
  rw [write, found]
  rcases free with missing | ⟨old, file⟩
  · simp [Bind.bind, Except.bind, failing, missing]
  · simp [Bind.bind, Except.bind, failing, file]

theorem read_eq {path : String} {bytes : List UInt8} (found : t.locate path = .ok l)
    (file : t.node? l = some (.file bytes)) : t.read path = .ok bytes := by
  rw [read, found]
  simp [Bind.bind, Except.bind, failing, file]

section Reading

variable {path : String} {bytes : List UInt8} (named : containsChar '\x00' path = false)
  (held : t.read path = .ok bytes)
include named held

theorem readText_of_decode {s : String} (decodes : Utf8.decode bytes = .ok s) :
    t.readText path = .ok (universalNewlines s) := by
  rw [readText, if_neg (by simp [named]), held]
  dsimp only
  rw [decodes]

theorem readText_of_fault {f : Utf8.Fault} (faulty : Utf8.decode bytes = .error f) :
    t.readText path = .error (.undecodable f) := by
  rw [readText, if_neg (by simp [named]), held]
  dsimp only
  rw [faulty]

end Reading

theorem readText_ne_nullByte {path : String} (named : containsChar '\x00' path = false) :
    t.readText path ≠ .error .nullByte := by
  rw [readText, if_neg (by simp [named])]
  split
  · simp
  · split
    · simp
    · simp

/-- A file that can be written holds what was written, and can be written again. -/
theorem Keeps.write {path : String} (keeps : t.Keeps path) (bytes : List UInt8) :
    ∃ u v, t.makeDirectories (Path.directoryOf path) = .ok u ∧ u.write path bytes = .ok v ∧
      v.Keeps path ∧ v.read path = .ok bytes := by
  obtain ⟨u, l, made, found, free⟩ := keeps
  have other : u.node? l ≠ some .directory := by
    rcases free with missing | ⟨old, file⟩
    · simp [missing]
    · simp [file]
  have grows : u.Extends (u.put l (.file bytes)) := extends_put other _
  have file : (u.put l (.file bytes)).node? l = some (.file bytes) := by
    rw [node?_put (ne_nil_of_node? other), if_pos rfl]
  have there := locate_extends grows found
  refine ⟨u, _, made, write_eq found free _, ?_, read_eq there file⟩
  exact ⟨_, l, (makeDirectories_again made).2 _ grows, there, .inr ⟨_, file⟩⟩

end NestShell.Files.Tree

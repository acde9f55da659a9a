import NestShell.Proofs.Text.Arguments
import NestShell.Proofs.Text.Lines

/-!
# Lines with their ends

The lines of a text without carriage returns are laid out behind one another with their ends, and
so is every slice of them. Line feeds at the end of a slice can be dropped: the lines that go with
them are empty.
-/

namespace NestShell.Text

/-- Lines with their ends, as they stand in a text without carriage returns. Only the last line can
be without an end, unless it is empty. -/
inductive Layout : List (List Char × List Char) → Prop where
  | nil : Layout []
  | unended {l : List Char} : (∀ c ∈ l, isLineEnd c = false) → l ≠ [] → Layout [(l, [])]
  | ended {l : List Char} {c : Char} {ls : List (List Char × List Char)} :
      (∀ d ∈ l, isLineEnd d = false) → isLineEnd c = true → c ≠ '\r' → Layout ls →
      Layout ((l, [c]) :: ls)

/-- Lines put together with their ends. -/
def together (ls : List (List Char × List Char)) : List Char := ls.flatMap fun l => l.1 ++ l.2

theorem layout_linesFrom {open_ cs : List Char} (unbroken : ∀ c ∈ open_, isLineEnd c = false)
    (fed : '\r' ∉ cs) : Layout (linesFrom open_ cs) := by
  fun_induction linesFrom open_ cs with
  | case1 => exact .nil
  | case2 open_ filled => exact .unended (by simpa using unbroken) (by simpa using filled)
  | case3 => exact absurd List.mem_cons_self fed
  | case4 open_ c cs other ends ih =>
    rw [List.mem_cons, not_or] at fed
    exact .ended (by simpa using unbroken) ends (Ne.symm fed.1) (ih (List.forall_mem_nil _) fed.2)
  | case5 open_ c cs other goesOn ih =>
    rw [List.mem_cons, not_or] at fed
    exact ih (List.forall_mem_cons.mpr ⟨by simpa using goesOn, unbroken⟩) fed.2

/-! ## Line feeds at the end -/

section Ends

variable {l : List Char} {c : Char} (unbroken : ∀ c ∈ l, isLineEnd c = false)
include unbroken

theorem dropEndWhile_unbroken : dropEndWhile ['\n'].contains l = l := by
  refine dropEndWhile_of_last fun c last => ?_
  have goesOn := unbroken c (List.mem_of_mem_getLast? last)
  simp only [List.contains_cons, List.contains_nil, Bool.or_false, beq_eq_false_iff_ne]
  rintro rfl
  cases goesOn

/-- The last line goes with its line feed if nothing stands in it. -/
theorem lines_of_last (ends : isLineEnd c = true) (other : c ≠ '\r') :
    (linesFrom [] (dropEndWhile ['\n'].contains (l ++ [c]))).map Prod.fst =
      if l = [] ∧ c = '\n' then [] else [l] := by
  by_cases feed : c = '\n'
  · have fed : dropEndWhile ['\n'].contains [c] = [] := by
      rw [feed]
      decide
    rw [dropEndWhile_append, if_pos fed, dropEndWhile_unbroken unbroken]
    by_cases blank : l = []
    · rw [if_pos ⟨blank, feed⟩, blank]
      rfl
    · rw [if_neg fun both => blank both.1, linesFrom_unended unbroken blank]
      rfl
  · have last : ∀ d ∈ (l ++ [c]).getLast?, ['\n'].contains d = false := by
      simpa using feed
    rw [dropEndWhile_of_last last, linesFrom_ended unbroken ends other,
      if_neg fun both => feed both.2]
    rfl

end Ends

namespace Layout

variable {ls : List (List Char × List Char)}

theorem drop (layout : Layout ls) (n : Nat) : Layout (ls.drop n) := by
  induction layout generalizing n with
  | nil =>
    rw [List.drop_nil]
    exact .nil
  | unended unbroken filled =>
    cases n with
    | zero => exact .unended unbroken filled
    | succ n =>
      rw [List.drop_succ_cons, List.drop_nil]
      exact .nil
  | ended unbroken ends other later ih =>
    cases n with
    | zero => exact .ended unbroken ends other later
    | succ n => exact ih n

theorem take (layout : Layout ls) (n : Nat) : Layout (ls.take n) := by
  induction layout generalizing n with
  | nil =>
    rw [List.take_nil]
    exact .nil
  | unended unbroken filled =>
    cases n with
    | zero => exact .nil
    | succ n =>
      rw [List.take_succ_cons, List.take_nil]
      exact .unended unbroken filled
  | ended unbroken ends other later ih =>
    cases n with
    | zero => exact .nil
    | succ n => exact .ended unbroken ends other (ih n)

/-- Where line feeds are dropped at the end, only empty lines go. -/
theorem exists_kept (layout : Layout ls) : ∃ kept dropped,
    ls.map Prod.fst = kept ++ dropped ∧ (∀ l ∈ dropped, l = []) ∧
      (linesFrom [] (dropEndWhile ['\n'].contains (together ls))).map Prod.fst = kept := by
  induction layout with
  | nil => exact ⟨[], [], rfl, List.forall_mem_nil _, rfl⟩
  | @unended l unbroken filled =>
    refine ⟨[l], [], rfl, List.forall_mem_nil _, ?_⟩
    rw [together, List.flatMap_singleton, List.append_nil, dropEndWhile_unbroken unbroken,
      linesFrom_unended unbroken filled]
    rfl
  | @ended l c ls unbroken ends other later ih =>
    obtain ⟨kept, dropped, whole, empty, read⟩ := ih
    rw [together, List.flatMap_cons, ← together, dropEndWhile_append]
    by_cases rest : dropEndWhile ['\n'].contains (together ls) = []
    · obtain rfl : kept = [] := by
        rw [← read, rest]
        rfl
      rw [List.nil_append] at whole
      rw [if_pos rest, lines_of_last unbroken ends other]
      split
      · next blank =>
        obtain ⟨rfl, -⟩ := blank
        exact ⟨[], [] :: dropped, congrArg _ whole, List.forall_mem_cons.mpr ⟨rfl, empty⟩, rfl⟩
      · exact ⟨[l], dropped, congrArg _ whole, empty, rfl⟩
    · refine ⟨l :: kept, dropped, congrArg _ whole, empty, ?_⟩
      rw [if_neg rest, List.append_assoc, List.singleton_append,
        linesFrom_ended unbroken ends other, List.map_cons, read]

end Layout

/-! ## Slices of a text -/

theorem not_mem_unifyLineEnds (cs : List Char) : '\r' ∉ unifyLineEnds cs := by
  fun_induction unifyLineEnds cs with
  | case1 => exact List.not_mem_nil
  | case2 cs ih => simpa using ih
  | case3 cs other ih => simpa using ih
  | case4 c cs crlf cr ih =>
    rw [List.mem_cons, not_or]
    exact ⟨Ne.symm cr, ih⟩

/-- Of a slice of the lines of a file, put together and without line feeds at the end, the lines are
the same, but for empty ones at the end. -/
theorem exists_kept_lines (content : String) (p q : Nat) : ∃ kept dropped,
    ((lines content).take q).drop p = kept ++ dropped ∧ (∀ l ∈ dropped, l = "") ∧
      lines (trimEndOf ['\n'] (String.join
        (((linesWithEnds (universalNewlines content)).take q).drop p))) = kept := by
  have layout : Layout (linesFrom [] (universalNewlines content).toList) := by
    refine layout_linesFrom (List.forall_mem_nil _) ?_
    rw [universalNewlines, String.toList_ofList]
    exact not_mem_unifyLineEnds _
  obtain ⟨kept, dropped, whole, empty, read⟩ := ((layout.take q).drop p).exists_kept
  have chars : (String.join
      (((linesWithEnds (universalNewlines content)).take q).drop p)).toList =
        together (((linesFrom [] (universalNewlines content).toList).take q).drop p) := by
    rw [linesWithEnds, ← List.map_take, ← List.map_drop, String.toList_join, List.flatMap_map,
      together]
    simp only [String.toList_ofList]
  refine ⟨kept.map String.ofList, dropped.map String.ofList, ?_, ?_, ?_⟩
  · rw [← lines_universalNewlines, lines_eq, ← List.map_take, ← List.map_drop, ← List.map_take,
      ← List.map_drop, whole, List.map_append]
  · intro l member
    obtain ⟨cs, inside, rfl⟩ := List.mem_map.mp member
    rw [empty cs inside]
  · rw [lines_eq, trimEndOf, String.toList_ofList, chars, read]

end NestShell.Text

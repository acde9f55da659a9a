import Mathlib.Data.List.Basic

/-!
# Places in a list

A slice of a list, told by the places of its elements.
-/

namespace NestShell

variable {α : Type}

/-- The elements with their places where these are in a range. -/
theorem zipIdx_take_drop (xs : List α) (k p q : Nat) :
    ((xs.zipIdx k).take q).drop p =
      (xs.zipIdx k).filter fun e => k + p ≤ e.2 ∧ e.2 < k + q := by
  induction xs generalizing k p q with
  | nil => simp
  | cons x xs ih =>
    have later : ∀ e ∈ xs.zipIdx (k + 1), k + 1 ≤ e.2 := fun e member =>
      List.le_snd_of_mem_zipIdx member
    rw [List.zipIdx_cons]
    cases q with
    | zero =>
      rw [List.take_zero, List.drop_nil, eq_comm, List.filter_eq_nil_iff]
      intro e member
      rcases List.mem_cons.mp member with rfl | member
      · simp
      · have := later e member
        simp
        omega
    | succ q =>
      rw [List.take_succ_cons]
      cases p with
      | zero =>
        have rest := ih (k + 1) 0 q
        rw [List.drop_zero] at rest
        rw [List.drop_zero, List.filter_cons_of_pos (by simp), rest]
        congr 1
        refine List.filter_congr fun e member => ?_
        have := later e member
        simp only [decide_eq_decide]
        omega
      | succ p =>
        rw [List.drop_succ_cons, ih, List.filter_cons_of_neg (by simp)]
        refine List.filter_congr fun e _ => ?_
        simp only [decide_eq_decide]
        omega

/-- The elements of a slice have the places that are in its range, which may lie outside of the list
on either side. -/
theorem zipIdx_slice (xs : List α) (p q : Int) :
    ((xs.take q.toNat).drop p.toNat).zipIdx p.toNat =
      xs.zipIdx.filter fun e => p ≤ e.2 ∧ (e.2 : Int) < q := by
  have places : ((xs.take q.toNat).drop p.toNat).zipIdx p.toNat =
      (xs.zipIdx.take q.toNat).drop p.toNat := by
    refine List.ext_getElem? fun i => ?_
    simp only [List.getElem?_zipIdx, List.getElem?_drop, List.getElem?_take]
    split
    · rw [Nat.zero_add]
    · rfl
  rw [places, zipIdx_take_drop]
  refine List.filter_congr fun e _ => ?_
  simp only [decide_eq_decide]
  omega

theorem slice_eq (xs : List α) (p q : Int) :
    (xs.take q.toNat).drop p.toNat =
      (xs.zipIdx.filter fun e => p ≤ e.2 ∧ (e.2 : Int) < q).map Prod.fst := by
  rw [← zipIdx_slice, List.zipIdx_map_fst]

end NestShell

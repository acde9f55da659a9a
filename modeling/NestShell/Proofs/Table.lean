import Mathlib.Data.List.Induction
import Mathlib.Data.List.Nodup
import NestShell.Code.Names

/-!
# What a table holds

Binding and erasing a name in a table is told by what each name is bound to afterwards.
-/

namespace NestShell

namespace Table

variable {α : Type} (n k : String) (a : α) (t : List (String × α))

theorem lookup_cons (e : String × α) :
    (e :: t).lookup k = if k = e.1 then some e.2 else t.lookup k := by
  rw [List.lookup_cons]
  by_cases here : k = e.1
  · rw [if_pos here, beq_iff_eq.mpr here]
  · rw [if_neg here, beq_eq_false_iff_ne.mpr here]

theorem lookup_set : (set n a t).lookup k = if k = n then some a else t.lookup k := by
  induction t with
  | nil => rw [set, lookup_cons]
  | cons e t ih =>
    by_cases here : e.1 = n
    · rw [set, if_pos (beq_iff_eq.mpr here), lookup_cons, lookup_cons, here]
      split <;> rfl
    · rw [set, if_neg (by simpa using here), lookup_cons, lookup_cons, ih]
      by_cases found : k = e.1
      · rw [if_pos found, if_neg (found ▸ here), if_pos found]
      · rw [if_neg found, if_neg found]

theorem lookup_erase : (erase n t).lookup k = if k = n then none else t.lookup k := by
  induction t with
  | nil => exact (ite_self none).symm
  | cons e t ih =>
    rw [lookup_cons]
    by_cases here : e.1 = n
    · rw [erase, List.filter_cons_of_neg (by simp [here]), ← erase, ih, here]
      split <;> rfl
    · rw [erase, List.filter_cons_of_pos (by simpa using here), ← erase, lookup_cons, ih]
      by_cases found : k = e.1
      · rw [if_pos found, if_neg (found ▸ here), if_pos found]
      · rw [if_neg found, if_neg found]

variable {n a t} {e : String × α}

theorem mem_of_mem_set (h : e ∈ set n a t) : e = (n, a) ∨ e ∈ t := by
  induction t with
  | nil => exact .inl (List.mem_singleton.mp h)
  | cons d t ih =>
    by_cases here : d.1 = n
    · rw [set, if_pos (beq_iff_eq.mpr here)] at h
      rcases List.mem_cons.mp h with first | rest
      · exact .inl first
      · exact .inr (List.mem_cons_of_mem d rest)
    · rw [set, if_neg (by simpa using here)] at h
      rcases List.mem_cons.mp h with first | rest
      · exact .inr (first ▸ List.mem_cons_self)
      · exact (ih rest).imp_right (List.mem_cons_of_mem d)

theorem mem_of_mem_erase (h : e ∈ erase n t) : e ∈ t := (List.mem_filter.mp h).1

theorem lookup_of_mem (h : e ∈ t) : ∃ b, (e.1, b) ∈ t ∧ t.lookup e.1 = some b := by
  induction t with
  | nil => exact absurd h List.not_mem_nil
  | cons d t ih =>
    by_cases here : e.1 = d.1
    · exact ⟨d.2, here ▸ List.mem_cons_self, by rw [lookup_cons, if_pos here]⟩
    · rcases List.mem_cons.mp h with first | rest
      · exact absurd (congrArg Prod.fst first) here
      · obtain ⟨b, member, found⟩ := ih rest
        exact ⟨b, List.mem_cons_of_mem d member, by rw [lookup_cons, if_neg here, found]⟩

theorem mem_of_lookup (h : t.lookup n = some a) : (n, a) ∈ t := by
  induction t with
  | nil => cases h
  | cons d t ih =>
    rw [lookup_cons] at h
    split at h
    · next here =>
      rw [here, ← Option.some.inj h]
      exact List.mem_cons_self
    · exact List.mem_cons_of_mem d (ih h)

/-! ## Tables that bind each name once -/

theorem keys_set (n : String) (a : α) (t : List (String × α)) : (set n a t).map Prod.fst =
    if n ∈ t.map Prod.fst then t.map Prod.fst else t.map Prod.fst ++ [n] := by
  induction t with
  | nil => rfl
  | cons e t ih =>
    by_cases here : e.1 = n
    · simp [set, here]
    · have other : ¬ n = e.1 := fun same => here same.symm
      simp only [set, here, beq_iff_eq, if_false, List.map_cons, ih, List.mem_cons, other, false_or]
      split <;> simp

theorem nodup_added {ns : List String} (distinct : ns.Nodup) (n : String) :
    (if n ∈ ns then ns else ns ++ [n]).Nodup := by
  split
  · exact distinct
  · next new => exact List.concat_eq_append ▸ distinct.concat new

theorem nodup_set (distinct : (t.map Prod.fst).Nodup) (n : String) (a : α) :
    ((set n a t).map Prod.fst).Nodup := by
  rw [keys_set]
  exact nodup_added distinct n

theorem nodup_erase (distinct : (t.map Prod.fst).Nodup) (n : String) :
    ((erase n t).map Prod.fst).Nodup :=
  distinct.sublist (List.filter_sublist.map Prod.fst)

theorem lookup_of_mem_nodup (distinct : (t.map Prod.fst).Nodup) (h : (n, a) ∈ t) :
    t.lookup n = some a := by
  obtain ⟨b, member, found⟩ := lookup_of_mem h
  have same := List.inj_on_of_nodup_map distinct member h rfl
  rw [found, (Prod.mk.inj same).2]

/-! ## Tables of items that have keys -/

/-- A table of items by their keys. Items may have no key, but no two of them have the same. -/
structure Keyed {α : Type} (key : α → Option String) (as : List α) (t : List (String × α)) :
    Prop where
  lookup_iff : ∀ k a, t.lookup k = some a ↔ a ∈ as ∧ key a = some k
  apart : as.Pairwise fun a b => ∀ k, key a = some k → key b ≠ some k

namespace Keyed

variable {k} {key : α → Option String} {as : List α}

theorem nil : Keyed key [] [] where
  lookup_iff _ _ := by simp
  apart := .nil

theorem isSome_lookup (h : Keyed key as t) :
    (t.lookup k).isSome = true ↔ ∃ a ∈ as, key a = some k := by
  rw [Option.isSome_iff_exists]
  exact exists_congr (h.lookup_iff k)

theorem lookup_eq_none (h : Keyed key as t) : t.lookup k = none ↔ ∀ a ∈ as, key a ≠ some k := by
  rw [← Option.not_isSome_iff_eq_none, h.isSome_lookup]
  simp

/-- The table gives what a search of the items gives. -/
theorem find?_eq (h : Keyed key as t) (k : String) :
    (as.find? fun a => key a == some k) = t.lookup k := by
  cases found : t.lookup k with
  | none =>
    rw [List.find?_eq_none]
    intro a member own
    exact h.lookup_eq_none.mp found a member (beq_iff_eq.mp own)
  | some a =>
    obtain ⟨member, own⟩ := (h.lookup_iff k a).mp found
    obtain ⟨b, first⟩ : ∃ b, (as.find? fun a => key a == some k) = some b :=
      Option.isSome_iff_exists.mp (List.find?_isSome.mpr ⟨a, member, beq_iff_eq.mpr own⟩)
    have same := (h.lookup_iff k b).mpr
      ⟨List.mem_of_find?_eq_some first, by simpa using List.find?_some first⟩
    rw [first, ← same, found]

theorem apart_concat (h : Keyed key as t) (free : ∀ k, key a = some k → t.lookup k = none) :
    (as ++ [a]).Pairwise fun a b => ∀ k, key a = some k → key b ≠ some k := by
  rw [List.pairwise_append]
  refine ⟨h.apart, List.pairwise_singleton _ a, fun b member c last k own taken => ?_⟩
  rw [List.mem_singleton.mp last] at taken
  exact h.lookup_eq_none.mp (free k taken) b member own

theorem concat_keyless (h : Keyed key as t) (keyless : key a = none) : Keyed key (as ++ [a]) t where
  lookup_iff k b := by
    rw [h.lookup_iff, List.mem_append, List.mem_singleton]
    refine and_congr_left fun own => ⟨.inl, fun member => member.resolve_right ?_⟩
    rintro rfl
    exact nomatch keyless.symm.trans own
  apart := h.apart_concat fun k own => nomatch keyless.symm.trans own

theorem concat_set (h : Keyed key as t) (own : key a = some k) (free : t.lookup k = none) :
    Keyed key (as ++ [a]) (set k a t) where
  lookup_iff m b := by
    rw [lookup_set, List.mem_append, List.mem_singleton]
    split
    · next here =>
      subst here
      constructor
      · intro same
        cases same
        exact ⟨.inr rfl, own⟩
      · rintro ⟨before | rfl, taken⟩
        · exact absurd taken (h.lookup_eq_none.mp free b before)
        · rfl
    · next other =>
      rw [h.lookup_iff]
      refine and_congr_left fun taken => ⟨.inl, fun member => member.resolve_right ?_⟩
      rintro rfl
      exact other (Option.some.inj (taken.symm.trans own))
  apart := h.apart_concat fun m taken => by
    rwa [Option.some.inj (taken.symm.trans own)]

end Keyed

end Table

namespace Code.Names

theorem get?_set (t : Names) (n k : String) (v : Value) :
    (t.set n v).get? k = if k = n then some v else t.get? k := Table.lookup_set n k v t.entries

/-- Of several bindings of a name the last one counts. -/
theorem get?_ofList (es : List (String × Value)) (n : String) :
    (ofList es).get? n = es.reverse.lookup n := by
  unfold ofList
  induction es using List.reverseRecOn with
  | nil => rfl
  | append_singleton es e ih =>
    rw [List.foldl_append, List.foldl_cons, List.foldl_nil, get?_set, ih, List.reverse_append,
      List.reverse_singleton, List.singleton_append, Table.lookup_cons]

end Code.Names

end NestShell

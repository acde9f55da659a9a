import Mathlib.Data.List.Basic
import NestShell.Options.Parse
import NestShell.Proofs.Options.Course
import NestShell.Proofs.Table

/-!
# Accepted schemas

A schema that was made by adding flags to the empty one finds each of its flags by each of its
forms. A short form is no dash, so the spellings of two flags differ too: none but a help flag's own
asks for help.
-/

namespace NestShell

/-! ## Keys -/

namespace Text

variable (c : Char) (by_ s : String)

theorem toList_replaceChar : (replaceChar c by_ s).toList =
    s.toList.flatMap fun d => if d = c then by_.toList else [d] := by
  rw [replaceChar, String.toList_join, List.flatMap_map]
  refine List.flatMap_congr fun d _ => ?_
  by_cases here : d = c <;> simp [here]

variable {c by_ s}

theorem not_mem_replaceChar (other : c ∉ by_.toList) : c ∉ (replaceChar c by_ s).toList := by
  rw [toList_replaceChar, List.mem_flatMap]
  rintro ⟨d, -, member⟩
  split at member
  · exact other member
  · next differs => exact differs (List.mem_singleton.mp member).symm

theorem replaceChar_of_not_mem (h : c ∉ s.toList) : replaceChar c by_ s = s := by
  apply String.toList_injective
  rw [toList_replaceChar]
  conv_rhs => rw [← List.flatMap_singleton' s.toList]
  refine List.flatMap_congr fun d member => ?_
  exact if_neg fun same : d = c => h (same ▸ member)

end Text

namespace Options

open NestShell.Text NestShell.Code

/-- The flag was made of given forms. -/
def Made (f : Flag) : Prop :=
  ∃ short long help kind asksHelp, Flag.make short long help kind asksHelp = .ok f

namespace Made

variable {f : Flag} {c : Char}

theorem head?_dropDashes (s : String) : (Flag.dropDashes s).toList.head? ≠ some '-' := by
  rw [Flag.dropDashes, trimStartOf, String.toList_ofList]
  intro first
  have := List.head?_dropWhile_not ['-'].contains s.toList
  simp [first] at this

theorem short_ne (h : Made f) (short : f.short = some c) : c ≠ '-' := by
  obtain ⟨first, long, help, kind, asks, made⟩ := h
  rintro rfl
  revert made
  fun_cases Flag.make first long help kind asks with
  | case3 _ s dropped d single =>
    intro made
    cases made
    cases short
    obtain ⟨t, -, rfl⟩ := Option.map_eq_some_iff.mp dropped
    exact head?_dropDashes t (by rw [single]; rfl)
  | case2 =>
    intro made
    cases made
    cases short
  | _ => exact nofun

/-- A key is plain: reading a flag by its key finds it. -/
theorem plainKey_key (h : Made f) : Parsed.plainKey f.key = f.key := by
  apply replaceChar_of_not_mem
  unfold Flag.key
  cases long : f.longForm? with
  | some n => exact not_mem_replaceChar (by decide)
  | none =>
    cases short : f.short with
    | none => exact List.not_mem_nil
    | some c =>
      intro member
      have same : '-' = c := by simpa using member
      exact h.short_ne short same.symm

end Made

/-! ## Forms and spellings -/

/-- Schemas that were made by adding one flag after another. -/
inductive Accepted : Schema → Prop
  | empty : Accepted {}
  | add {s s' : Schema} {f : Flag} : Accepted s → Made f → s.add f = .ok s' → Accepted s'

theorem Schema.add_ok {s s' : Schema} {f : Flag} (added : s.add f = .ok s') :
    (∀ c, f.short = some c → s.findShort? c = none) ∧
      (∀ n, f.longForm? = some n → s.findLong? n = none) ∧ s' = ⟨s.flags ++ [f]⟩ := by
  revert added
  unfold Schema.add
  split
  · exact nofun
  · exact nofun
  · next short long =>
    intro added
    cases added
    refine ⟨fun c same => ?_, fun n same => ?_, rfl⟩
    · simpa [same] using short
    · simpa [same] using long

namespace Accepted

variable {s : Schema} {f g : Flag} {c : Char} {n token : String}

theorem made (h : Accepted s) (member : f ∈ s.flags) : Made f := by
  induction h with
  | empty => cases member
  | add _ new added ih =>
    obtain ⟨-, -, rfl⟩ := Schema.add_ok added
    rcases List.mem_append.mp member with before | last
    · exact ih before
    · exact List.mem_singleton.mp last ▸ new

theorem findShort? (h : Accepted s) (member : f ∈ s.flags) (short : f.short = some c) :
    s.findShort? c = some f := by
  induction h with
  | empty => cases member
  | add _ _ added ih =>
    obtain ⟨free, -, rfl⟩ := Schema.add_ok added
    unfold Schema.findShort? at ih free ⊢
    rw [List.find?_append]
    rcases List.mem_append.mp member with before | last
    · rw [ih before, Option.some_or]
    · obtain rfl := List.mem_singleton.mp last
      rw [free c short, Option.none_or]
      simp [short]

theorem findLong? (h : Accepted s) (member : f ∈ s.flags) (long : f.longForm? = some n) :
    s.findLong? n = some f := by
  induction h with
  | empty => cases member
  | add _ _ added ih =>
    obtain ⟨-, free, rfl⟩ := Schema.add_ok added
    unfold Schema.findLong? at ih free ⊢
    rw [List.find?_append]
    rcases List.mem_append.mp member with before | last
    · rw [ih before, Option.some_or]
    · obtain rfl := List.mem_singleton.mp last
      rw [free n long, Option.none_or]
      simp [long]

theorem shortToken_ne_longToken (h : Made f) (short : f.short = some c) :
    Flag.shortToken c ≠ Flag.longToken n := by
  intro same
  have letters : c = '-' ∧ n = "" := by
    simpa [Flag.shortToken, Flag.longToken] using congrArg String.toList same
  exact h.short_ne short letters.1

/-- No two flags have a spelling in common. -/
theorem eq_of_spelling (h : Accepted s) (first : f ∈ s.flags) (second : g ∈ s.flags)
    (left : token ∈ f.spellings) (right : token ∈ g.spellings) : f = g := by
  rcases Flag.mem_spellings.mp left with ⟨c, short, rfl⟩ | ⟨n, long, rfl⟩ <;>
    rcases Flag.mem_spellings.mp right with ⟨d, short', same⟩ | ⟨m, long', same⟩
  · have : d = c := by simpa [Flag.shortToken] using same
    subst this
    exact Option.some.inj ((h.findShort? first short).symm.trans (h.findShort? second short'))
  · exact absurd same.symm (shortToken_ne_longToken (h.made first) short)
  · exact absurd same (shortToken_ne_longToken (h.made second) short')
  · have : m = n := by simpa [Flag.longToken] using same
    subst this
    exact Option.some.inj ((h.findLong? first long).symm.trans (h.findLong? second long'))

theorem not_mem_helpTokens (h : Accepted s) (member : f ∈ s.flags) (plain : f.asksHelp = false)
    (spelled : token ∈ f.spellings) : token ∉ s.helpTokens := by
  rw [Schema.helpTokens, List.mem_flatMap]
  rintro ⟨g, asks, spells⟩
  obtain ⟨other, asks⟩ := List.mem_filter.mp asks
  obtain rfl := h.eq_of_spelling member other spelled spells
  exact Bool.false_ne_true (plain.symm.trans asks)

end Accepted

/-! ## Initial values -/

/-- A flag's initial value stands under its key unless a later flag has the same key. -/
theorem Schema.initials_get? {s : Schema} {before after : List Flag} {f : Flag}
    (split : s.flags = before ++ f :: after) (plain : f.asksHelp = false)
    (last : ∀ g ∈ after, g.asksHelp = false → g.key ≠ f.key) :
    s.initials.get? f.key = some f.initial := by
  have later : (((after.filter (!·.asksHelp)).map fun g => (g.key, g.initial)).reverse).lookup f.key
      = none := by
    rw [List.lookup_eq_none_iff]
    intro e member
    obtain ⟨g, own, rfl⟩ := List.mem_map.mp (List.mem_reverse.mp member)
    obtain ⟨behind, plain'⟩ := List.mem_filter.mp own
    exact bne_iff_ne.mpr (last g behind (by simpa using plain')).symm
  rw [initials, Names.get?_ofList, split, List.filter_append,
    List.filter_cons_of_pos (by simp [plain]), List.map_append, List.reverse_append, List.map_cons,
    List.reverse_cons, List.lookup_append, List.lookup_append, later, Option.none_or,
    Table.lookup_cons, if_pos rfl, Option.some_or]

end Options

end NestShell

import Mathlib.Data.List.Basic
import NestShell.History.Basic

/-!
# Texts of any code points

A string is the text of its characters, and every text without surrogates is one. So the entries of
a history are strings if no surrogate is in them.
-/

namespace NestShell.Text

variable {α β : Type}

/-- A list is read element by element if each element can be written back. -/
theorem mapM_eq_some {read : α → Option β} {write : β → α}
    (inverse : ∀ a b, read a = some b ↔ a = write b) {as : List α} {bs : List β} :
    as.mapM read = some bs ↔ as = bs.map write := by
  induction as generalizing bs with
  | nil => cases bs <;> simp
  | cons a as ih =>
    rw [List.mapM_cons]
    cases bs with
    | nil =>
      cases first : read a with
      | none => simp
      | some b => cases rest : as.mapM read <;> simp
    | cons b bs =>
      rw [List.map_cons, List.cons.injEq, ← inverse, ← ih]
      cases first : read a with
      | none => simp
      | some c => cases rest : as.mapM read <;> simp

theorem char?_eq_some (p : CodePoint) (c : Char) : p.char? = some c ↔ p = .char c := by
  cases p <;> simp [CodePoint.char?]

theorem stringOf?_eq_some {points : List CodePoint} {s : String} :
    stringOf? points = some s ↔ points = s.toList.map .char := by
  rw [← mapM_eq_some char?_eq_some, stringOf?, Option.map_eq_some_iff]
  constructor
  · rintro ⟨cs, read, rfl⟩
    rw [read, String.toList_ofList]
  · exact fun read => ⟨s.toList, read, String.ofList_toList⟩

theorem WideText.eq_ofString {t : WideText} {s : String} :
    stringOf? t.points = some s ↔ t = ofString s := by
  rw [stringOf?_eq_some, ofString, WideText.mk.injEq]

theorem WideText.ofString_injective : Function.Injective ofString := fun _ _ same =>
  Option.some_inj.mp ((eq_ofString.mpr rfl).symm.trans (eq_ofString.mpr same))

end NestShell.Text

namespace NestShell.History

open NestShell.Text

/-- The entries of a session are strings. -/
theorem strings?_eq (entries : List String) : strings? entries = some entries := by
  have inverse (e s : String) : stringOf? (EntryText.points e) = some s ↔ e = id s := by
    rw [stringOf?_eq_some]
    exact ⟨fun same => String.toList_inj.mp (List.map_injective_iff.mpr
      (fun _ _ => CodePoint.char.inj) same), fun same => same ▸ rfl⟩
  exact (mapM_eq_some inverse).mpr (List.map_id entries).symm

theorem strings?_eq_some {entries : List WideText} {strings : List String} :
    strings? entries = some strings ↔ entries = strings.map .ofString :=
  mapM_eq_some fun _ _ => WideText.eq_ofString

end NestShell.History

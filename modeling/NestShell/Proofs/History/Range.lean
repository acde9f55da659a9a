import NestShell.History.Range
import NestShell.Proofs.Places
import NestShell.Proofs.Text.Numerals

/-!
# Ranges of history entries

A range is written as one integer or as two with dots between them, and is read back unless one of
them has too many digits. It selects the entries whose places are in the range, and none where the
range lies outside of the history.
-/

namespace NestShell.History.Range

open NestShell.Text

/-! ## Reading a range -/

section Reading

variable {c : Char} {a b : Int}

theorem isDecimalDigit_of_isDigit (digit : c.isDigit = true) : isDecimalDigit c = true := by
  rw [isDecimalDigit, decimalValue?_digit digit]
  rfl

/-- An integer is read up to where its digits end. -/
theorem number?_toString (i : Int) {rest : List Char}
    (stops : ∀ c ∈ rest.head?, isDecimalDigit c = false) :
    number? ((toString i).toList ++ rest) = some ((toString i).toList, rest) := by
  have digits : ∀ c ∈ (toString i.natAbs).toList, isDecimalDigit c = true := fun c member =>
    isDecimalDigit_of_isDigit (isDigit_of_mem_toString member)
  have taken : ((toString i.natAbs).toList ++ rest).takeWhile isDecimalDigit =
      (toString i.natAbs).toList := by
    rw [List.takeWhile_append_of_pos digits]
    cases rest with
    | nil => simp
    | cons c rest => simp [stops c rfl]
  have left : ((toString i.natAbs).toList ++ rest).dropWhile isDecimalDigit = rest := by
    rw [List.dropWhile_append_of_pos digits]
    cases rest with
    | nil => simp
    | cons c rest => simp [stops c rfl]
  obtain ⟨first, others, same⟩ :=
    List.exists_cons_of_ne_nil (toList_toString_ne_nil (n := i.natAbs))
  rw [toList_toString_int]
  by_cases negative : i < 0
  · rw [if_pos negative, List.append_assoc]
    simp only [number?, List.singleton_append, taken, left]
    rw [same]
  · rw [if_neg negative, List.nil_append]
    unfold number?
    split
    next sign unsigned signed =>
      split at signed
      · next tail minus =>
        rw [same] at minus
        obtain rfl : first = '-' := List.head_eq_of_cons_eq minus
        cases isDigit_of_mem_toString (n := i.natAbs) (same ▸ List.mem_cons_self)
      · obtain ⟨rfl, rfl⟩ := Prod.mk.inj signed
        simp only [taken, left]
        rw [same]
        rfl

theorem stops_dot (rest : List Char) : ∀ c ∈ ('.' :: rest).head?, isDecimalDigit c = false := by
  intro c first
  obtain rfl : '.' = c := Option.some_inj.mp first
  decide

theorem number?_whole (a : Int) :
    number? (toString a).toList = some ((toString a).toList, []) := by
  have number : number? ((toString a).toList ++ []) = some ((toString a).toList, []) :=
    number?_toString a nofun
  rwa [List.append_nil] at number

theorem bounds?_toString (a : Int) : bounds? (toString a) = some ((toString a).toList, none) := by
  unfold bounds?
  rw [trimmed_toString_int.trim_eq, number?_whole]

/-- Two integers around dots. -/
theorem number?_dotted (a b : Int) (dots : String) (dotted : dots.toList.head? = some '.') :
    number? (trim (toString a ++ dots ++ toString b)).toList =
      some ((toString a).toList, dots.toList ++ (toString b).toList) := by
  have whole : Trimmed (toString a ++ dots ++ toString b).toList := by
    rw [String.toList_append, String.toList_append]
    exact trimmed_toString_int.around trimmed_toString_int toList_toString_int_ne_nil
      toList_toString_int_ne_nil _
  obtain ⟨rest, starts⟩ := List.head?_eq_some_iff.mp dotted
  rw [whole.trim_eq, String.toList_append, String.toList_append, List.append_assoc]
  refine number?_toString a ?_
  rw [starts, List.cons_append]
  exact stops_dot _

theorem bounds?_inclusive (a b : Int) : bounds? (toString a ++ ".." ++ toString b) =
    some ((toString a).toList, some ((toString b).toList, false)) := by
  have start := number?_dotted a b ".." rfl
  unfold bounds?
  rw [start]
  split
  · next whole => cases whole
  · next _ rest third =>
    simp only [Option.some.injEq, Prod.mk.injEq] at third
    have dot : '.' ∈ (toString b).toList := by
      rw [List.append_cancel_left (third.2.trans (List.append_cons ['.', '.'] '.' rest))]
      exact List.mem_cons_self
    rcases isDigit_of_mem_toString_int dot with sign | digit
    · cases sign
    · cases digit
  · next _ rest _ second =>
    simp only [Option.some.injEq, Prod.mk.injEq] at second
    obtain ⟨rfl, same⟩ := second
    have dots : ['.', '.'] ++ (toString b).toList = ['.', '.'] ++ rest := same
    obtain rfl := List.append_cancel_left dots
    rw [bounds?.second, number?_whole]
  · next dotless => exact absurd rfl (dotless _ _)

theorem bounds?_exclusive (a b : Int) : bounds? (toString a ++ "..." ++ toString b) =
    some ((toString a).toList, some ((toString b).toList, true)) := by
  have start := number?_dotted a b "..." rfl
  unfold bounds?
  rw [start]
  change bounds?.second _ (toString b).toList true = _
  rw [bounds?.second, number?_whole]

theorem read_toString (a : Int) :
    read (toString a) = (do let a ← numeral a; return some { start := a }) := by
  unfold read
  rw [bounds?_toString]
  dsimp only
  rw [String.ofList_toList, readInt_toString]

theorem read_of_short {n : Nat} (short : (toString n).length ≤ digitLimit) :
    read (toString n) = .ok (some { start := n }) := by
  refine (read_toString n).trans ?_
  rw [numeral, Int.natAbs_natCast, if_pos short]
  rfl

theorem read_inclusive (a b : Int) : read (toString a ++ ".." ++ toString b) =
    (do let a ← numeral a; let b ← numeral b; return some { start := a, stop := some b }) := by
  unfold read
  rw [bounds?_inclusive]
  dsimp only
  rw [String.ofList_toList, String.ofList_toList, readInt_toString, readInt_toString]

theorem read_exclusive (a b : Int) : read (toString a ++ "..." ++ toString b) =
    (do let a ← numeral a; let b ← numeral b
        return some { start := a, stop := some b, exclusive := true }) := by
  unfold read
  rw [bounds?_exclusive]
  dsimp only
  rw [String.ofList_toList, String.ofList_toList, readInt_toString, readInt_toString]

end Reading

/-! ## Selecting entries -/

section Selecting

variable {α : Type} (r : Range) (entries : List α)

/-- What a range selects is told by the places of the entries. -/
theorem select_eq (p q : Int) (bounds : r.slice entries.length = (p.toNat, q.toNat)) :
    r.select entries =
      (entries.zipIdx.filter fun e => p ≤ e.2 ∧ (e.2 : Int) < q).map Prod.fst := by
  unfold select
  rw [bounds]
  exact slice_eq entries p q

/-- One number selects the entry that it counts to. -/
theorem select_single (n : Nat) :
    ({ start := n } : Range).select entries = (entries[n]?).toList := by
  have start : fromEnd entries.length (n : Int) = n := if_neg (by omega)
  have bounds : ({ start := n } : Range).slice entries.length = (n, n + 1) := by
    unfold slice
    dsimp only
    rw [start]
    rfl
  unfold select
  rw [bounds]
  dsimp only
  rw [List.drop_take, Nat.add_sub_cancel_left, List.take_one, List.head?_drop]

/-- Written ranges are read as their bounds, and select the entries whose places are within. -/
theorem written_ranges_select (a b : Int) :
    let place (i : Int) : Int := if i < 0 then i + entries.length else i
    read (toString a) = (do let a ← numeral a; return some { start := a }) ∧
    read (toString a ++ ".." ++ toString b) =
      (do let a ← numeral a; let b ← numeral b; return some { start := a, stop := some b }) ∧
    read (toString a ++ "..." ++ toString b) =
      (do let a ← numeral a; let b ← numeral b
          return some { start := a, stop := some b, exclusive := true }) ∧
    ({ start := a } : Range).select entries =
      (entries.zipIdx.filter fun e => (e.2 : Int) = place a).map Prod.fst ∧
    ({ start := a, stop := some b } : Range).select entries =
      (entries.zipIdx.filter fun e => place a ≤ e.2 ∧ (e.2 : Int) ≤ place b).map Prod.fst ∧
    ({ start := a, stop := some b, exclusive := true } : Range).select entries =
      (entries.zipIdx.filter fun e => place a ≤ e.2 ∧ (e.2 : Int) < place b).map Prod.fst := by
  intro place
  refine ⟨read_toString a, read_inclusive a b, read_exclusive a b, ?_, ?_, ?_⟩
  · rw [select_eq _ entries (place a) (place a + 1) rfl]
    refine congrArg _ (List.filter_congr fun e _ => ?_)
    simp only [decide_eq_decide]
    omega
  · rw [select_eq _ entries (place a) (place b + 1) rfl]
    refine congrArg _ (List.filter_congr fun e _ => ?_)
    simp only [decide_eq_decide]
    omega
  · exact select_eq _ entries (place a) (place b) rfl

/-- A number with one digit too many is not read. -/
theorem long_number_unread : read (toString ((10 : Int) ^ 4300)) = .error (.tooLong 4301) := by
  have long : ¬ 4301 ≤ digitLimit := by decide
  rw [read_toString, numeral, length_toString_pow, if_neg long]
  rfl

end Selecting

end NestShell.History.Range

import Mathlib.Algebra.Group.Int.Defs
import NestShell.Proofs.Text.Arguments
import NestShell.Text.Numeral

/-!
# Integers in decimal

An integer that is written in decimal is read as the integer, unless it has too many digits.
-/

namespace NestShell.Text

/-! ## Digits -/

section Digits

variable {c : Char} {cs : List Char} {n : Nat}

theorem decimalValue?_digit (digit : c.isDigit = true) :
    decimalValue? c = some (c.toNat - '0'.toNat) := by
  have small : c.toNat < 128 := by
    have least := (Char.isDigit_iff_toNat.mp digit).2
    exact Nat.lt_of_le_of_lt least (by decide)
  unfold decimalValue?
  dsimp only
  rw [if_pos small, if_pos digit]
  rfl

theorem numeralChar?_digit (digit : c.isDigit = true) :
    numeralChar? c = some (some (c.toNat - '0'.toNat)) := by
  have noLine : (c == '_') = false := by
    rw [beq_eq_false_iff_ne]
    rintro rfl
    cases digit
  rw [numeralChar?, noLine, if_neg Bool.false_ne_true, decimalValue?_digit digit, Option.map_some]

theorem readDigitsAfter_digits (acc : Nat) :
    readDigitsAfter acc (cs.map fun c => some (c.toNat - '0'.toNat)) =
      some (Nat.ofDigitChars 10 cs acc) := by
  induction cs generalizing acc with
  | nil => rfl
  | cons c cs ih => rw [List.map_cons, readDigitsAfter, ih, Nat.ofDigitChars_cons]

theorem mapM_numeralChar? (digits : ∀ c ∈ cs, c.isDigit = true) :
    cs.mapM numeralChar? = some (cs.map fun c => some (c.toNat - '0'.toNat)) := by
  induction cs with
  | nil => rfl
  | cons c cs ih =>
    rw [List.mapM_cons, numeralChar?_digit (digits c List.mem_cons_self),
      ih fun d member => digits d (List.mem_cons_of_mem c member)]
    rfl

end Digits

/-! ## Numbers -/

section Numbers

variable {c : Char} {n : Nat}

theorem isDigit_of_mem_toString (member : c ∈ (toString n).toList) : c.isDigit = true := by
  rw [Nat.toString_eq_ofList_toDigits, String.toList_ofList] at member
  exact Nat.isDigit_of_mem_toDigits (by decide) (by decide) member

theorem toList_toString_ne_nil : (toString n).toList ≠ [] := by
  rw [Nat.toString_eq_ofList_toDigits, String.toList_ofList]
  exact Nat.toDigits_ne_nil

/-- No sign stands in front. -/
theorem toString_ne_signed (sign : c.isDigit = false) (rest : List Char) :
    (toString n).toList ≠ c :: rest := by
  intro same
  have member : c ∈ (toString n).toList := by
    rw [same]
    exact List.mem_cons_self
  rw [isDigit_of_mem_toString member] at sign
  cases sign

theorem isBlank_of_isDigit (digit : c.isDigit = true) : isBlank c = false := by
  apply Words.isBlank_of_isPlain
  simp [Words.isPlain, Char.isAlphanum, digit]

theorem trimmed_toString : Trimmed (toString n).toList where
  begins _ first := isBlank_of_isDigit (isDigit_of_mem_toString (List.mem_of_mem_head? first))
  ends _ last := isBlank_of_isDigit (isDigit_of_mem_toString (List.mem_of_mem_getLast? last))

theorem readNatural?_toString : readNatural? (toString n).toList = some n := by
  have value : Nat.ofDigitChars 10 (toString n).toList 0 = n := by
    rw [Nat.toString_eq_ofList_toDigits, String.toList_ofList, Nat.ofDigitChars_ten_toDigits]
  unfold readNatural?
  rw [mapM_numeralChar? fun c => isDigit_of_mem_toString]
  cases chars : (toString n).toList with
  | nil => exact absurd chars toList_toString_ne_nil
  | cons c cs =>
    rw [chars, Nat.ofDigitChars_cons, Nat.mul_zero, Nat.zero_add] at value
    rw [List.map_cons]
    dsimp only
    rw [readDigitsAfter_digits, value]

theorem readSigned_toString : readSigned (toString n).toList =
    if (toString n).length ≤ digitLimit then .ok (n : Int)
    else .error (.tooLong (toString n).length) := by
  have digits : (toString n).toList.filter (· != '_') = (toString n).toList := by
    rw [List.filter_eq_self]
    intro c member
    rw [bne_iff_ne]
    rintro rfl
    cases isDigit_of_mem_toString member
  unfold readSigned
  rw [readNatural?_toString, digits]
  dsimp only
  rw [String.length_toList, ← ite_not]
  simp only [Nat.not_lt, gt_iff_lt]

end Numbers

/-! ## Integers -/

section Integers

variable {c : Char} {i : Int}

/-- What reading an integer gives: too many digits are not read. -/
def numeral (i : Int) : Except NumeralFault Int :=
  if (toString i.natAbs).length ≤ digitLimit then .ok i
  else .error (.tooLong (toString i.natAbs).length)

/-- An integer is written with its sign in front, if it is negative. -/
theorem toList_toString_int (i : Int) :
    (toString i).toList = (if i < 0 then ['-'] else []) ++ (toString i.natAbs).toList := by
  cases i with
  | ofNat n =>
    rw [if_neg (by simp)]
    rfl
  | negSucc n =>
    rw [if_pos (Int.negSucc_lt_zero n)]
    exact String.toList_append

theorem isDigit_of_mem_toString_int (member : c ∈ (toString i).toList) :
    c = '-' ∨ c.isDigit = true := by
  rw [toList_toString_int] at member
  rcases List.mem_append.mp member with sign | digit
  · split at sign
    · exact .inl (List.mem_singleton.mp sign)
    · cases sign
  · exact .inr (isDigit_of_mem_toString digit)

theorem toList_toString_int_ne_nil : (toString i).toList ≠ [] := by
  rw [toList_toString_int]
  exact List.append_ne_nil_of_right_ne_nil _ toList_toString_ne_nil

theorem isBlank_of_mem_toString_int (member : c ∈ (toString i).toList) : isBlank c = false := by
  rcases isDigit_of_mem_toString_int member with rfl | digit
  · decide
  · exact isBlank_of_isDigit digit

theorem trimmed_toString_int : Trimmed (toString i).toList where
  begins _ first := isBlank_of_mem_toString_int (List.mem_of_mem_head? first)
  ends _ last := isBlank_of_mem_toString_int (List.mem_of_mem_getLast? last)

/-- An integer in decimal is read as the integer. -/
theorem readInt_toString (i : Int) : readInt (toString i) = numeral i := by
  have kept : trimBy isNumeralBlank (toString i).toList = (toString i).toList := by
    have ink {c : Char} (member : c ∈ (toString i).toList) : isNumeralBlank c = false := by
      rw [isNumeralBlank, isBlank_of_mem_toString_int member, Bool.false_and]
    exact trimBy_of_ends (fun c first => ink (List.mem_of_mem_head? first))
      fun c last => ink (List.mem_of_mem_getLast? last)
  unfold readInt numeral
  rw [kept, toList_toString_int]
  by_cases negative : i < 0
  · have magnitude : -(i.natAbs : Int) = i := by omega
    rw [if_pos negative]
    change (fun n => -n) <$> readSigned (toString i.natAbs).toList = _
    rw [readSigned_toString]
    split
    · exact congrArg Except.ok magnitude
    · rfl
  · have magnitude : (i.natAbs : Int) = i := by omega
    rw [if_neg negative, List.nil_append]
    split
    · next rest same => exact absurd same (toString_ne_signed rfl rest)
    · next rest same => exact absurd same (toString_ne_signed rfl rest)
    · rw [readSigned_toString, magnitude]

theorem length_toString_pow : (toString ((10 : Int) ^ 4300).natAbs).length = 4301 := by
  rw [Int.natAbs_pow, Nat.toString_eq_ofList_toDigits, String.length_ofList]
  decide +kernel

end Integers

end NestShell.Text

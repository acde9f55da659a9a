import NestShell.Text.Utf8

/-!
# Bytes of a text

Reading the bytes that a text is written in gives the text back: the first byte of a character tells
how many belong to it, and their bits are those of the character.
-/

namespace NestShell.Text.Utf8

/-! ## The bytes of a text -/

theorem toList_loop (bs : ByteArray) (i : Nat) (read : List UInt8) :
    ByteArray.toList.loop bs i read = read.reverse ++ bs.data.toList.drop i := by
  fun_induction ByteArray.toList.loop bs i read with
  | case1 i read inside ih =>
    have here : i < bs.data.toList.length := inside
    rw [ih, List.reverse_cons, List.append_assoc, List.drop_eq_getElem_cons here]
    simp [ByteArray.get!, inside]
  | case2 i read outside =>
    have there : bs.data.toList.length ≤ i := Nat.le_of_not_lt outside
    rw [List.drop_eq_nil_of_le there, List.append_nil]

theorem encode_eq (s : String) : encode s = s.toList.flatMap String.utf8EncodeChar := by
  unfold encode
  rw [String.toUTF8_eq_toByteArray, ← String.utf8Encode_toList, ByteArray.toList, toList_loop]
  simp [List.utf8Encode]

/-! ## Single characters -/

section Bytes

variable {b : UInt8}

theorem lead_one (most : b.toNat < 0x80) : lead b = some (1, b.toNat, 0, 0) := by
  simp [lead, most]

theorem lead_two (least : 0xC2 ≤ b.toNat) (most : b.toNat < 0xE0) :
    lead b = some (2, b.toNat - 0xC0, 0x80, 0xBF) := by
  have other : ¬ b.toNat < 0x80 := by omega
  have start : ¬ b.toNat < 0xC2 := by omega
  simp only [lead, other, start, most, if_true, if_false]

/-- Only the first and the last but two of these bytes bound the byte after them. -/
theorem lead_three (least : 0xE0 ≤ b.toNat) (most : b.toNat < 0xF0) :
    lead b = some (3, b.toNat - 0xE0, if b.toNat = 0xE0 then 0xA0 else 0x80,
      if b.toNat = 0xED then 0x9F else 0xBF) := by
  have other : ¬ b.toNat < 0x80 := by omega
  have start : ¬ b.toNat < 0xC2 := by omega
  have two : ¬ b.toNat < 0xE0 := by omega
  simp only [lead, other, start, two, most, if_true, if_false, beq_iff_eq]
  by_cases first : b.toNat = 0xE0
  · simp [first]
  · by_cases surrogate : b.toNat = 0xED
    · simp [surrogate]
    · simp [first, surrogate]

/-- Only the first and the last of these bytes bound the byte after them. -/
theorem lead_four (least : 0xF0 ≤ b.toNat) (most : b.toNat ≤ 0xF4) :
    lead b = some (4, b.toNat - 0xF0, if b.toNat = 0xF0 then 0x90 else 0x80,
      if b.toNat = 0xF4 then 0x8F else 0xBF) := by
  have other : ¬ b.toNat < 0x80 := by omega
  have start : ¬ b.toNat < 0xC2 := by omega
  have two : ¬ b.toNat < 0xE0 := by omega
  have three : ¬ b.toNat < 0xF0 := by omega
  have before : b.toNat ≠ 0xE0 := by omega
  have surrogate : b.toNat ≠ 0xED := by omega
  simp only [lead, other, start, two, three, before, surrogate, if_false, beq_iff_eq]
  by_cases first : b.toNat = 0xF0
  · simp [first]
  · by_cases last : b.toNat = 0xF4
    · simp [last]
    · have between : b.toNat < 0xF4 := by omega
      simp [first, last, between]

end Bytes

theorem readChar_of_lead {b c : UInt8} {cs : List UInt8} {size bits low high : Nat}
    (leads : lead b = some (size, bits, low, high)) (more : size ≠ 1) (least : low ≤ c.toNat)
    (most : c.toNat ≤ high) :
    readChar b (c :: cs) = readTail 2 size (bits * 64 + (c.toNat - 0x80)) (size - 2) cs := by
  unfold readChar
  rw [leads]
  simp only [more, least, most, beq_iff_eq, decide_true, Bool.and_self, if_true, if_false]

theorem toNat_byte {n : Nat} (h : n < 256) : (UInt8.ofNat n).toNat = n := by
  rw [UInt8.toNat_ofNat', Nat.mod_eq_of_lt h]

/-- A byte of six bits is read as these bits. -/
theorem readTail_byte {n : Nat} (h : n < 64) (seen size bits more : Nat) (bs : List UInt8) :
    readTail seen size bits (more + 1) (UInt8.ofNat (n + 128) :: bs) =
      readTail (seen + 1) size (bits * 64 + n) more bs := by
  have byte : (UInt8.ofNat (n + 128)).toNat = n + 128 := toNat_byte (by omega)
  have tail : isTail (UInt8.ofNat (n + 128)) = true := by
    rw [isTail, byte]
    simp only [Bool.and_eq_true, decide_eq_true_eq]
    omega
  rw [readTail, if_pos tail, byte, Nat.add_sub_cancel]

/-- The bytes of a character are read as the character, whatever follows them. -/
theorem readChar_encodeChar (c : Char) : ∃ b bs, String.utf8EncodeChar c = b :: bs ∧
    ∀ rest, readChar b (bs ++ rest) = .char c (bs.length + 1) := by
  have valid : c.val.toNat < 0xD800 ∨ 0xDFFF < c.val.toNat ∧ c.val.toNat < 0x110000 := c.valid
  have whole : Char.ofNat c.val.toNat = c := Char.ofNat_toNat c
  unfold String.utf8EncodeChar
  dsimp only
  generalize c.val.toNat = v at valid whole ⊢
  -- the bytes after the first hold six bits each
  have byte (n : Nat) : (UInt8.ofNat (n % 64 + 128)).toNat = n % 64 + 128 :=
    toNat_byte (by omega)
  split
  · have first : (UInt8.ofNat v).toNat = v := toNat_byte (by omega)
    refine ⟨_, _, rfl, fun rest => ?_⟩
    unfold readChar
    rw [lead_one (by omega), first]
    simp [whole]
  split
  · have first : (UInt8.ofNat (v / 64 % 32 + 192)).toNat = v / 64 + 192 := by
      rw [toNat_byte (by omega)]
      omega
    refine ⟨_, _, rfl, fun rest => ?_⟩
    rw [List.cons_append, readChar_of_lead (lead_two (by omega) (by omega)) (by decide)
      (by rw [byte]; omega) (by rw [byte]; omega), first, byte, readTail]
    rw [show (v / 64 + 192 - 0xC0) * 64 + (v % 64 + 128 - 0x80) = v by omega, whole]
    rfl
  split
  · have first : (UInt8.ofNat (v / 4096 % 16 + 224)).toNat = v / 4096 + 224 := by
      rw [toNat_byte (by omega)]
      omega
    refine ⟨_, _, rfl, fun rest => ?_⟩
    have leads := lead_three (b := UInt8.ofNat (v / 4096 % 16 + 224)) (by omega) (by omega)
    rw [List.cons_append, readChar_of_lead leads (by decide) (by rw [byte]; split <;> omega)
      (by rw [byte]; split <;> omega), first, byte, List.cons_append,
      readTail_byte (Nat.mod_lt v (by decide)), readTail]
    rw [show ((v / 4096 + 224 - 0xE0) * 64 + (v / 64 % 64 + 128 - 0x80)) * 64 + v % 64 = v by omega,
      whole]
    rfl
  · have first : (UInt8.ofNat (v / 262144 % 8 + 240)).toNat = v / 262144 + 240 := by
      rw [toNat_byte (by omega)]
      omega
    refine ⟨_, _, rfl, fun rest => ?_⟩
    have leads := lead_four (b := UInt8.ofNat (v / 262144 % 8 + 240)) (by omega) (by omega)
    rw [List.cons_append, readChar_of_lead leads (by decide) (by rw [byte]; split <;> omega)
      (by rw [byte]; split <;> omega), first, byte, List.cons_append,
      readTail_byte (Nat.mod_lt _ (by decide)), List.cons_append,
      readTail_byte (Nat.mod_lt v (by decide)), readTail]
    rw [show (((v / 262144 + 240 - 0xF0) * 64 + (v / 4096 % 64 + 128 - 0x80)) * 64 +
      v / 64 % 64) * 64 + v % 64 = v by omega, whole]
    rfl

/-! ## Whole texts -/

theorem decodeFrom_skip {bs : List UInt8} (position : Nat) (acc : List Char) (rest : List UInt8) :
    decodeFrom position bs.length acc (bs ++ rest) =
      decodeFrom (position + bs.length) 0 acc rest := by
  induction bs generalizing position with
  | nil => rfl
  | cons b bs ih =>
    rw [List.length_cons, List.cons_append, decodeFrom, ih]
    congr 1
    omega

theorem decodeFrom_encode (cs : List Char) (position : Nat) (acc : List Char) :
    decodeFrom position 0 acc (cs.flatMap String.utf8EncodeChar) = .ok (acc.reverse ++ cs) := by
  induction cs generalizing position acc with
  | nil => rw [List.flatMap_nil, decodeFrom, List.append_nil]
  | cons c cs ih =>
    obtain ⟨b, bs, bytes, read⟩ := readChar_encodeChar c
    rw [List.flatMap_cons, bytes, List.cons_append, decodeFrom, read]
    change decodeFrom (position + 1) bs.length (c :: acc) _ = _
    rw [decodeFrom_skip, ih, List.reverse_cons, List.append_assoc, List.singleton_append]

/-- What was written is read again. -/
theorem decode_encode (s : String) : decode (encode s) = .ok s := by
  rw [decode, encode_eq, decodeFrom_encode]
  change Except.ok (String.ofList ([] ++ s.toList)) = _
  rw [List.nil_append, String.ofList_toList]

end NestShell.Text.Utf8

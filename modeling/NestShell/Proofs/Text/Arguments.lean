import Mathlib.Data.List.DropRight
import NestShell.Proofs.Text.Quoting

/-!
# Arguments written as words

An argument is written as one word: as it is, or between apostrophes, where an apostrophe of its own
stands between double quotes. Arguments that are written one after another are the words of the
line, and the line has no blanks at its ends.
-/

namespace NestShell.Text

section Ends

variable {p : Char → Bool} {cs : List Char}

/-- Nothing is dropped where the last character stays. -/
theorem dropEndWhile_of_last (last : ∀ c ∈ cs.getLast?, p c = false) : dropEndWhile p cs = cs := by
  refine List.rdropWhile_eq_self_iff.mpr fun filled dropped => ?_
  rw [last _ (List.getLast?_eq_getLast_of_ne_nil filled)] at dropped
  cases dropped

theorem dropEndWhile_append (xs ys : List Char) : dropEndWhile p (xs ++ ys) =
    if dropEndWhile p ys = [] then dropEndWhile p xs else xs ++ dropEndWhile p ys := by
  unfold dropEndWhile
  rw [List.reverse_append, List.dropWhile_append]
  by_cases all : ys.reverse.dropWhile p = []
  · simp [all]
  · simp [all]

theorem dropWhile_of_first (first : ∀ c ∈ cs.head?, p c = false) : cs.dropWhile p = cs := by
  cases cs with
  | nil => rfl
  | cons c rest =>
    have stays : p c = false := first c (by rw [List.head?_cons, Option.mem_some_iff])
    exact List.dropWhile_cons_of_neg (by simp [stays])

/-- Nothing is dropped where the first and the last character stay. -/
theorem trimBy_of_ends (first : ∀ c ∈ cs.head?, p c = false)
    (last : ∀ c ∈ cs.getLast?, p c = false) : trimBy p cs = cs := by
  rw [trimBy, dropWhile_of_first first, dropEndWhile_of_last last]

end Ends

/-- Characters without blanks at their ends. -/
structure Trimmed (cs : List Char) : Prop where
  begins : ∀ c ∈ cs.head?, isBlank c = false
  ends : ∀ c ∈ cs.getLast?, isBlank c = false

namespace Trimmed

variable {cs : List Char}

theorem trimBy_eq (trimmed : Trimmed cs) : trimBy isBlank cs = cs :=
  trimBy_of_ends trimmed.begins trimmed.ends

theorem dropEndWhile_eq (trimmed : Trimmed cs) : dropEndWhile isBlank cs = cs :=
  dropEndWhile_of_last trimmed.ends

theorem trim_eq {s : String} (trimmed : Trimmed s.toList) : trim s = s := by
  rw [trim, trimmed.trimBy_eq, String.ofList_toList]

theorem trimEnd_eq {s : String} (trimmed : Trimmed s.toList) : trimEnd s = s := by
  rw [trimEnd, trimmed.dropEndWhile_eq, String.ofList_toList]

theorem trimEnd_append_blank {s : String} (trimmed : Trimmed s.toList) :
    trimEnd (s ++ " ") = s := by
  have end_ : (s ++ " ").toList.reverse = ' ' :: s.toList.reverse := by
    rw [String.toList_append, List.reverse_append]
    rfl
  rw [trimEnd, dropEndWhile, end_, List.dropWhile_cons_of_pos (by decide), ← dropEndWhile,
    trimmed.dropEndWhile_eq, String.ofList_toList]

theorem splitFirst_word {s : String} (trimmed : Trimmed s.toList) :
    (splitFirst s).1.toList = s.toList.takeWhile fun c => !isBlank c := by
  unfold splitFirst
  rw [trimmed.trimBy_eq, String.toList_ofList]

theorem single {c : Char} (ink : isBlank c = false) : Trimmed [c] := by
  constructor <;> simp [ink]

/-- Trimmed characters around any others. -/
theorem around {before after : List Char} (first : Trimmed before) (second : Trimmed after)
    (filled : before ≠ []) (filled' : after ≠ []) (between : List Char) :
    Trimmed (before ++ between ++ after) := by
  constructor
  · rw [List.append_assoc, List.head?_append_of_ne_nil _ filled]
    exact first.begins
  · rw [List.getLast?_append_of_ne_nil _ filled']
    exact second.ends

end Trimmed

/-- A text that blanks do not separate, and which is not empty. -/
def IsWord (s : String) : Prop := s ≠ "" ∧ ∀ c ∈ s.toList, isBlank c = false

instance (s : String) : Decidable (IsWord s) :=
  decidable_of_iff (s ≠ "" ∧ s.toList.all fun c => !isBlank c) (by simp [IsWord])

namespace IsWord

variable {s : String}

theorem filled (word : IsWord s) : s.toList ≠ [] := by simpa using word.1

theorem trimmed (word : IsWord s) : Trimmed s.toList :=
  ⟨fun c first => word.2 c (List.mem_of_mem_head? first),
    fun c last => word.2 c (List.mem_of_mem_getLast? last)⟩

end IsWord

/-- The ends of a text can be trimmed in any order. -/
theorem dropWhile_dropEndWhile (p : Char → Bool) (cs : List Char) :
    (dropEndWhile p cs).dropWhile p = trimBy p cs := by
  induction cs with
  | nil => rfl
  | cons c cs ih =>
    have whole : dropEndWhile p (c :: cs) =
        if dropEndWhile p cs = [] then dropEndWhile p [c] else c :: dropEndWhile p cs :=
      dropEndWhile_append [c] cs
    by_cases drops : p c = true
    · have alone : dropEndWhile p [c] = [] := by simp [dropEndWhile, drops]
      rw [trimBy, List.dropWhile_cons_of_pos drops, ← trimBy, ← ih, whole, alone]
      split
      · next all => rw [all]
      · exact List.dropWhile_cons_of_pos drops
    · rw [trimBy, List.dropWhile_cons_of_neg drops, whole]
      split
      · simp [dropEndWhile, drops]
      · exact List.dropWhile_cons_of_neg drops

theorem trimBy_trimBy (p : Char → Bool) (cs : List Char) :
    trimBy p (trimBy p cs) = trimBy p cs := by
  have once : (trimBy p cs).dropWhile p = trimBy p cs := by
    rw [trimBy, dropWhile_dropEndWhile, trimBy, List.dropWhile_idempotent]
  rw [trimBy, once, trimBy]
  exact List.rdropWhile_idempotent p _

/-- A word in front of a text is split off, and the text is trimmed. -/
theorem IsWord.splitFirst_trim {s : String} (word : IsWord s) (t : String) :
    splitFirst (trim (s ++ " " ++ t)) = (s, trim t) := by
  obtain ⟨gap, behind, outside, rest⟩ : ∃ gap,
      trimBy isBlank (s ++ " " ++ t).toList = s.toList ++ gap ∧
      (∀ c ∈ gap.head?, (!isBlank c) = false) ∧
      gap.dropWhile isBlank = trimBy isBlank t.toList := by
    have begins : ∀ c ∈ (s.toList ++ (' ' :: t.toList)).head?, isBlank c = false := by
      rw [List.head?_append_of_ne_nil _ word.filled]
      exact word.trimmed.begins
    have gap : dropEndWhile isBlank (' ' :: t.toList) =
        if dropEndWhile isBlank t.toList = [] then dropEndWhile isBlank [' ']
        else ' ' :: dropEndWhile isBlank t.toList := dropEndWhile_append [' '] t.toList
    refine ⟨dropEndWhile isBlank (' ' :: t.toList), ?_, ?_, ?_⟩
    · have chars : (s ++ " " ++ t).toList = s.toList ++ ' ' :: t.toList := by
        rw [String.toList_append, String.toList_append, List.append_assoc]
        rfl
      rw [chars, trimBy, dropWhile_of_first begins, dropEndWhile_append]
      split
      · next none_ => rw [none_, List.append_nil, word.trimmed.dropEndWhile_eq]
      · rfl
    · rw [gap]
      split
      · exact nofun
      · rintro c ⟨⟩
        decide
    · rw [dropWhile_dropEndWhile, trimBy, List.dropWhile_cons_of_pos (by decide), ← trimBy]
  have ink : ∀ c ∈ s.toList, (!isBlank c) = true := fun c member => by simp [word.2 c member]
  have apart : gap.takeWhile (fun c => !isBlank c) = [] := by
    cases gap with
    | nil => rfl
    | cons c gap => exact List.takeWhile_cons_of_neg (by simp [outside c rfl])
  unfold splitFirst trim
  dsimp only
  rw [String.toList_ofList, trimBy_trimBy, behind, List.takeWhile_append_of_pos ink,
    List.dropWhile_append_of_pos ink, dropWhile_of_first outside, rest,
    apart, List.append_nil, String.ofList_toList]

namespace Words

/-! ## One argument -/

theorem isBare_of_isPlain {c : Char} (plain : isPlain c = true) : isBare c = true := by
  by_contra special
  have among : c = ' ' ∨ c = '\t' ∨ c = '\r' ∨ c = '\n' ∨ c = '\x27' ∨ c = '\x22' ∨ c = '\\' := by
    simp only [isBare, isSeparator, isQuote, Bool.and_eq_true, Bool.not_eq_true', not_and_or,
      Bool.not_eq_false, Bool.or_eq_true, beq_iff_eq, bne_iff_ne, ne_eq, not_not] at special
    tauto
  rcases among with rfl | rfl | rfl | rfl | rfl | rfl | rfl <;> cases plain

/-- The codes of the characters that are blanks. -/
def blankCodes : List Nat :=
  [9, 10, 11, 12, 13, 28, 29, 30, 31, 32, 133, 160, 5760, 8192, 8193, 8194, 8195, 8196, 8197, 8198,
    8199, 8200, 8201, 8202, 8232, 8233, 8239, 8287, 12288]

theorem mem_blankCodes {c : Char} (blank : isBlank c = true) : c.toNat ∈ blankCodes := by
  simp only [isBlank, Bool.or_eq_true, Bool.and_eq_true, decide_eq_true_eq, beq_iff_eq] at blank
  simp only [blankCodes, List.mem_cons, List.not_mem_nil]
  omega

theorem isBlank_of_isPlain {c : Char} (plain : isPlain c = true) : isBlank c = false := by
  have marked : (blankCodes.all fun n => !isPlain (Char.ofNat n)) = true := by decide
  by_contra blank
  have special := List.all_eq_true.mp marked c.toNat (mem_blankCodes (by simpa using blank))
  rw [Char.ofNat_toNat, plain] at special
  cases special

theorem scan_bare {cs : List Char} (bare : ∀ c ∈ cs, isBare c = true) (open_ rest : List Char) :
    scan .word open_ (cs ++ rest) = scan .word (cs.reverse ++ open_) rest := by
  induction cs generalizing open_ with
  | nil => rfl
  | cons c cs ih =>
    have first := scan_piece (.word open_) (.char c (bare c List.mem_cons_self)) (cs ++ rest)
    rw [List.cons_append]
    refine first.trans ?_
    rw [ih fun d member => bare d (List.mem_cons_of_mem c member)]
    simp [Piece.read]

theorem scan_quoteChars (cs open_ rest : List Char) :
    scan (.quote '\x27') open_ (quoteChars cs ++ rest) =
      scan (.quote '\x27') (cs.reverse ++ open_) rest := by
  induction cs generalizing open_ with
  | nil => rfl
  | cons c cs ih =>
    by_cases apostrophe : c = '\x27'
    · rw [quoteChars, if_pos (beq_iff_eq.mpr apostrophe), List.append_assoc]
      have between : scan (.quote '\x27') open_
          (['\x27', '\x22', '\x27', '\x22', '\x27'] ++ (quoteChars cs ++ rest)) =
          scan (.quote '\x27') ('\x27' :: open_) (quoteChars cs ++ rest) := by
        simp [scan, isSeparator, isQuote]
      rw [between, ih, apostrophe]
      simp
    · rw [quoteChars, if_neg (by simpa using apostrophe), List.cons_append, scan,
        if_neg (by simpa using apostrophe), if_neg (by simp), ih]
      simp

/-- An argument that is written is read into the open word. -/
theorem scan_quoted {m : Mode} {open_ : List Char} (begins : Begins m open_) (s : String)
    (rest : List Char) :
    scan m open_ ((quote s).toList ++ rest) = scan .word (s.toList.reverse ++ open_) rest := by
  unfold quote
  split
  · next empty =>
    obtain rfl : s = "" := by simpa using empty
    exact scan_piece begins (.single [] List.not_mem_nil) rest
  · next filled =>
    split
    · next plain =>
      have bare : ∀ c ∈ s.toList, isBare c = true := fun c member =>
        isBare_of_isPlain (List.all_eq_true.mp plain c member)
      cases chars : s.toList with
      | nil => exact absurd (by simpa using chars) filled
      | cons c cs =>
        rw [chars] at bare
        have first := scan_piece begins (.char c (bare c List.mem_cons_self)) (cs ++ rest)
        rw [List.cons_append]
        refine first.trans ?_
        rw [scan_bare fun d member => bare d (List.mem_cons_of_mem c member)]
        simp [Piece.read]
    · rw [String.toList_ofList, List.cons_append, List.cons_append,
        scan_opens begins isQuote_apostrophe, List.append_assoc, scan_quoteChars,
        List.singleton_append, scan, if_pos (by decide)]

/-- An argument is written as it is, or it begins with an apostrophe. -/
theorem quote_plain_or_marked (s : String) :
    (quote s = s ∧ ∀ c ∈ s.toList, isPlain c = true) ∨ (quote s).toList.head? = some '\x27' := by
  unfold quote
  split
  · exact .inr (by decide)
  · split
    · next plain => exact .inl ⟨rfl, List.all_eq_true.mp plain⟩
    · rw [String.toList_ofList]
      exact .inr rfl

theorem trimmed_quote (s : String) : Trimmed (quote s).toList ∧ (quote s).toList ≠ [] := by
  have mark : Trimmed ['\x27'] := .single (by decide)
  unfold quote
  split
  · exact ⟨mark.around mark (by simp) (by simp) [], by simp⟩
  · next filled =>
    split
    · next plain =>
      have ink : ∀ c ∈ s.toList, isBlank c = false := fun c member =>
        isBlank_of_isPlain (List.all_eq_true.mp plain c member)
      exact ⟨⟨fun c member => ink c (List.mem_of_mem_head? member),
        fun c member => ink c (List.mem_of_mem_getLast? member)⟩, by simpa using filled⟩
    · have whole := mark.around mark (by simp) (by simp) (quoteChars s.toList)
      rw [String.toList_ofList]
      exact ⟨by simpa using whole, by simp⟩

/-! ## Several arguments -/

/-- Arguments written one after another. -/
theorem toList_joined (a b : String) (ws : List String) :
    (" ".intercalate ((a :: b :: ws).map quote)).toList =
      (quote a).toList ++ ' ' :: (" ".intercalate ((b :: ws).map quote)).toList := by
  rw [List.map_cons, List.map_cons, String.intercalate_cons_cons, String.toList_append,
    String.toList_append, List.append_assoc]
  rfl

theorem scan_joined (a : String) (ws : List String) :
    scan .gap [] (" ".intercalate ((a :: ws).map quote)).toList =
      .ok ((a :: ws).map String.toList) := by
  induction ws generalizing a with
  | nil =>
    have one := scan_quoted .gap a []
    rw [List.append_nil] at one
    simpa [scan] using one
  | cons b ws ih =>
    rw [toList_joined, scan_quoted .gap, scan, if_pos (by decide), ih]
    simp [Functor.map, Except.map]

/-- Arguments that are written are the words of the line. -/
theorem split_joined (ws : List String) : split (" ".intercalate (ws.map quote)) = ws := by
  cases ws with
  | nil => rfl
  | cons a ws =>
    unfold split split?
    rw [scan_joined]
    simp [Functor.map, Except.map]

theorem trimmed_joined (a : String) (ws : List String) :
    Trimmed (" ".intercalate ((a :: ws).map quote)).toList ∧
      (" ".intercalate ((a :: ws).map quote)).toList ≠ [] := by
  induction ws generalizing a with
  | nil => simpa using trimmed_quote a
  | cons b ws ih =>
    obtain ⟨first, filled⟩ := trimmed_quote a
    obtain ⟨later, filled'⟩ := ih b
    have whole := first.around later filled filled' [' ']
    rw [toList_joined]
    exact ⟨by simpa using whole, by simp⟩

/-- The first of written arguments, where it needs no quotes, is the first word of the line. -/
theorem splitFirst_joined {a : String} (plain : ∀ c ∈ a.toList, isPlain c = true) (filled : a ≠ "")
    (b : String) (ws : List String) :
    splitFirst (trim (" ".intercalate ((a :: b :: ws).map quote))) =
      (a, " ".intercalate ((b :: ws).map quote)) := by
  have ink : ∀ c ∈ a.toList, (!isBlank c) = true := fun c member => by
    rw [isBlank_of_isPlain (plain c member), Bool.not_false]
  have bare : quote a = a := by
    rw [quote, if_neg (by simpa using filled), if_pos (List.all_eq_true.mpr plain)]
  obtain ⟨whole, -⟩ := trimmed_joined a (b :: ws)
  obtain ⟨rest, -⟩ := trimmed_joined b ws
  rw [whole.trim_eq]
  unfold splitFirst
  rw [whole.trimBy_eq, toList_joined, bare]
  dsimp only
  rw [List.takeWhile_append_of_pos ink, List.takeWhile_cons_of_neg (by decide), List.append_nil,
    List.dropWhile_append_of_pos ink, List.dropWhile_cons_of_neg (by decide),
    List.dropWhile_cons_of_pos (by decide), String.ofList_toList,
    dropWhile_of_first rest.begins, String.ofList_toList]

end Words

end NestShell.Text

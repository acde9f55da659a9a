import NestShell.Proofs.Text.Lines
import NestShell.Proofs.Text.Numerals
import NestShell.Text.Columns

/-!
# Numbered lines

The rows of a numbered text are the lines of the text, each with its place among them as its number.
Texts that stand one under another have their own numbers as long as no line ends within them.
-/

namespace NestShell.Text

/-- A line behind its number, which is set to the right. -/
def numbered (width n : Nat) (line : String) : String := padStart width (toString n) ++ ": " ++ line

/-- In the text the line stands with the number. -/
def Numbers (text : String) (n : Nat) (line : String) : Prop :=
  ∃ width, numbered width n line ∈ splitOnChar '\n' text

/-! ## Rows -/

section Rows

variable {n i w v : Nat} {e l : String}

theorem toString_inj (same : toString i = toString n) : i = n := by
  have digits := congrArg (fun s => Nat.ofDigitChars 10 s.toList 0) same
  simpa [Nat.toString_eq_ofList_toDigits] using digits

theorem toList_numbered : (numbered w n e).toList =
    (List.replicate (w - (toString n).length) ' ' ++ (toString n).toList) ++
      ':' :: ' ' :: e.toList := by
  unfold numbered padStart
  rw [String.toList_append, String.toList_append, String.toList_append, String.toList_ofList,
    List.append_assoc]
  rfl

/-- A row has one number and one line. -/
theorem numbered_inj (same : numbered w i l = numbered v n e) : i = n ∧ l = e := by
  have front (w n : Nat) :
      ∀ c ∈ List.replicate (w - (toString n).length) ' ' ++ (toString n).toList,
        (c != ':') = true := by
    intro c member
    rcases List.mem_append.mp member with blank | digit
    · rw [List.eq_of_mem_replicate blank]
      decide
    · rw [bne_iff_ne]
      rintro rfl
      cases isDigit_of_mem_toString digit
  have blanks (w n : Nat) :
      (List.replicate (w - (toString n).length) ' ' ++ (toString n).toList).dropWhile (· == ' ') =
        (toString n).toList := by
    rw [List.dropWhile_append_of_pos fun c blank => by simp [List.eq_of_mem_replicate blank]]
    cases chars : (toString n).toList with
    | nil => rfl
    | cons c cs =>
      refine List.dropWhile_cons_of_neg ?_
      rw [beq_iff_eq]
      rintro rfl
      exact toString_ne_signed rfl cs chars
  have chars := congrArg String.toList same
  rw [toList_numbered, toList_numbered] at chars
  have numbers := congrArg (List.takeWhile (· != ':')) chars
  have lines_ := congrArg (List.dropWhile (· != ':')) chars
  rw [List.takeWhile_append_of_pos (front w i), List.takeWhile_append_of_pos (front v n)] at numbers
  rw [List.dropWhile_append_of_pos (front w i), List.dropWhile_append_of_pos (front v n)] at lines_
  simp only [List.takeWhile_cons, List.dropWhile_cons, bne_self_eq_false, Bool.false_eq_true,
    if_false, List.append_nil, List.cons.injEq, true_and] at numbers lines_
  refine ⟨toString_inj (String.toList_inj.mp ?_), String.toList_inj.mp lines_⟩
  rw [← blanks w i, numbers, blanks]

end Rows

/-! ## Numbered texts -/

section Texts

variable {text e : String} {n : Nat}

/-- No line of a text has a line feed. -/
theorem not_mem_of_mem_lines {line : String} (member : line ∈ lines text) :
    '\n' ∉ line.toList := by
  obtain ⟨l, among, rfl⟩ := List.mem_map.mp member
  rw [String.toList_ofList]
  intro inside
  cases isLineEnd_of_mem_linesFrom (by simp) l among _ inside

theorem not_mem_numbered {w : Nat} {line : String} (member : line ∈ lines text) :
    '\n' ∉ (numbered w n line).toList := by
  rw [toList_numbered]
  simp only [List.mem_append, List.mem_cons, List.mem_replicate, not_or]
  refine ⟨⟨by simp, fun digit => ?_⟩, by decide, by decide, not_mem_of_mem_lines member⟩
  cases isDigit_of_mem_toString digit

/-- The rows are as wide as the last number. -/
theorem numberLines_eq (start : Nat) (text : String) : numberLines start text =
    "\n".intercalate ((lines text).mapIdx fun i line =>
      numbered (toString (start + (lines text).length - 1)).length (start + i) line) := by
  have number (i : Nat) : toString ((start : Int) + i) = toString (start + i) := rfl
  unfold numberLines
  cases rows : lines text with
  | nil => rfl
  | cons first rest =>
    have last : (start : Int) + (first :: rest).length - 1 =
        (start + (first :: rest).length - 1 : Nat) := by
      simp
      omega
    dsimp only
    simp only [number, last]
    rfl

/-- Rows in which no line ends are told apart again. -/
theorem splitOnChar_intercalate {rows : List String} (filled : rows ≠ [])
    (whole : ∀ row ∈ rows, '\n' ∉ row.toList) :
    splitOnChar '\n' ("\n".intercalate rows) = rows := by
  have cut : ("\n".toList.intercalate (rows.map String.toList)).splitOn '\n' =
      rows.map String.toList :=
    List.splitOn_intercalate '\n' (by simpa using whole) (by simpa using filled)
  rw [splitOnChar, String.toList_intercalate]
  exact (congrArg (List.map String.ofList) cut).trans (by simp)

/-- The numbers of a text are the places of its lines. -/
theorem numbers_numberLines : Numbers (numberLines 0 text) n e ↔ (lines text)[n]? = some e := by
  obtain ⟨width, same⟩ : ∃ width, numberLines 0 text =
      "\n".intercalate ((lines text).mapIdx fun i line => numbered width i line) := by
    have rows := numberLines_eq 0 text
    simp only [Nat.zero_add, Int.natCast_zero] at rows
    exact ⟨_, rows⟩
  by_cases blank : lines text = []
  · have nothing : splitOnChar '\n' (numberLines 0 text) = [""] := by
      rw [same, blank]
      rfl
    rw [Numbers, nothing, blank, List.getElem?_nil]
    refine iff_of_false ?_ nofun
    rintro ⟨w, row⟩
    have empty := congrArg String.toList (List.mem_singleton.mp row)
    rw [toList_numbered] at empty
    simp at empty
  · have rows : splitOnChar '\n' (numberLines 0 text) =
        (lines text).mapIdx fun i line => numbered width i line := by
      rw [same]
      refine splitOnChar_intercalate (by simpa using blank) fun row member => ?_
      obtain ⟨i, inside, rfl⟩ := List.mem_mapIdx.mp member
      exact not_mem_numbered (List.getElem_mem inside)
    rw [Numbers, rows]
    constructor
    · rintro ⟨w, row⟩
      obtain ⟨i, inside, row⟩ := List.mem_mapIdx.mp row
      obtain ⟨rfl, rfl⟩ := numbered_inj row
      exact List.getElem?_eq_getElem inside
    · intro line
      obtain ⟨inside, rfl⟩ := List.getElem?_eq_some_iff.mp line
      exact ⟨width, List.mem_mapIdx.mpr ⟨n, inside, rfl⟩⟩

/-- Rows with something in them, in which no line ends, end in no line feed together. -/
theorem intercalate_ends {rows : List String}
    (whole : ∀ row ∈ rows, row.toList ≠ [] ∧ '\n' ∉ row.toList) :
    ∀ c ∈ ("\n".intercalate rows).toList.getLast?, c ≠ '\n' := by
  induction rows with
  | nil => exact nofun
  | cons row rows ih =>
    obtain ⟨filled, kept⟩ := whole row List.mem_cons_self
    cases rows with
    | nil =>
      rintro c last rfl
      exact kept (List.mem_of_mem_getLast? last)
    | cons next rows =>
      have later : ("\n".intercalate (next :: rows)).toList ≠ [] := by
        have first := (whole next (by simp)).1
        cases rows <;> simp [String.intercalate_cons_cons, first]
      rw [String.intercalate_cons_cons, String.toList_append,
        List.getLast?_append_of_ne_nil _ later]
      exact ih fun row member => whole row (List.mem_cons_of_mem _ member)

/-- A numbered text does not end in a line feed. -/
theorem numberLines_ends (start : Nat) (text : String) :
    ∀ c ∈ (numberLines start text).toList.getLast?, c ≠ '\n' := by
  rw [numberLines_eq]
  refine intercalate_ends fun row member => ?_
  obtain ⟨i, inside, rfl⟩ := List.mem_mapIdx.mp member
  exact ⟨by simp [toList_numbered], not_mem_numbered (List.getElem_mem inside)⟩

end Texts

/-! ## Texts one under another -/

theorem lines_unbroken {t : String} (unbroken : ∀ c ∈ t.toList, isLineEnd c = false) :
    lines t = if t.isEmpty then [] else [t] := by
  by_cases empty : t.isEmpty
  · rw [if_pos empty, String.isEmpty_iff.mp empty]
    rfl
  · rw [if_neg empty, lines, linesFrom_unended unbroken (by simpa using empty)]
    simp

/-- A line that is ended by a line feed. -/
theorem lines_append {t : String} (unbroken : ∀ c ∈ t.toList, isLineEnd c = false) (s : String) :
    lines (t ++ "\n" ++ s) = t :: lines s := by
  have chars : (t ++ "\n" ++ s).toList = t.toList ++ '\n' :: s.toList := by
    rw [String.toList_append, String.toList_append, List.append_assoc]
    rfl
  rw [lines, chars, linesFrom_ended unbroken (by decide) (by decide)]
  simp [lines]

/-- As long as no line ends within the texts, a line with a number is the text at that place. -/
theorem text_of_line {texts : List String} {n : Nat} {e : String}
    (unbroken : ∀ t ∈ texts.take (n + 1), ∀ c ∈ t.toList, isLineEnd c = false)
    (line : (lines ("\n".intercalate texts))[n]? = some e) : texts[n]? = some e := by
  induction texts generalizing n with
  | nil => cases line
  | cons t texts ih =>
    have first := unbroken t (by simp)
    cases texts with
    | nil =>
      rw [String.intercalate_singleton, lines_unbroken first] at line
      split at line
      · cases line
      · exact line
    | cons u texts =>
      rw [String.intercalate_cons_cons, lines_append first] at line
      cases n with
      | zero => exact line
      | succ n => exact ih (fun v member => unbroken v (List.mem_cons_of_mem t member)) line

end NestShell.Text

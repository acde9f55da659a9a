import NestShell.Proofs.Text.LastWord
import NestShell.Proofs.Text.Numbering

/-!
# Items in columns

Items are put into cells of one width, as many cells on a line as fit, and the blanks of the last
cell are dropped. A cell is wider than its item by at least two blanks, so the items stay apart, and
the text in front of a cell has the same length on every line. Where a single cell does not fit, it
has a line to itself.
-/

namespace NestShell.Text

/-! ## Rows -/

section Rows

variable {n : Nat} {items row : List String}

theorem flatten_rowsOf (n : Nat) (items : List String) : (rowsOf n items).flatten = items := by
  fun_induction rowsOf n items with
  | case1 => rfl
  | case2 item rest ih =>
    rw [List.flatten_cons, ih, List.cons_append, List.take_append_drop]

theorem filled_of_mem_rowsOf (member : row ∈ rowsOf n items) : row ≠ [] := by
  fun_induction rowsOf n items with
  | case1 => cases member
  | case2 item rest ih =>
    rcases List.mem_cons.mp member with rfl | later
    · exact List.cons_ne_nil _ _
    · exact ih later

theorem length_of_mem_rowsOf (room : 0 < n) (member : row ∈ rowsOf n items) : row.length ≤ n := by
  fun_induction rowsOf n items with
  | case1 => cases member
  | case2 item rest ih =>
    rcases List.mem_cons.mp member with rfl | later
    · rw [List.length_cons, List.length_take]
      omega
    · exact ih later

/-- A row that is followed by others is full. -/
theorem length_of_mem_dropLast_rowsOf (room : 0 < n) (member : row ∈ (rowsOf n items).dropLast) :
    row.length = n := by
  fun_induction rowsOf n items with
  | case1 => cases member
  | case2 item rest ih =>
    by_cases more : rowsOf n (rest.drop (n - 1)) = []
    · rw [more] at member
      cases member
    · rw [List.dropLast_cons_of_ne_nil more] at member
      rcases List.mem_cons.mp member with rfl | later
      · have left : rest.drop (n - 1) ≠ [] := by
          intro none_
          rw [none_, rowsOf] at more
          exact more rfl
        rw [ne_eq, List.drop_eq_nil_iff] at left
        rw [List.length_cons, List.length_take]
        omega
      · exact ih later

end Rows

/-! ## Cells -/

/-- A row as it is printed, in cells of one width. -/
def rowText (cell : Nat) (row : List String) : String :=
  trimEnd (String.join (row.map (padEnd cell)))

theorem tablify_eq (width : Int) (items : List String) : tablify width items =
    "\n".intercalate ((rowsOf (columnCount width (cellWidth items)) items).map
      (rowText (cellWidth items))) := rfl

theorem rowText_nil (cell : Nat) : rowText cell [] = "" := by
  rw [rowText, List.map_nil, String.join_nil]
  decide

theorem toList_padEnd (cell : Nat) (s : String) :
    (padEnd cell s).toList = s.toList ++ List.replicate (cell - s.length) ' ' := by
  rw [padEnd, String.toList_append, String.toList_ofList]

theorem dropEndWhile_replicate (n : Nat) : dropEndWhile isBlank (List.replicate n ' ') = [] := by
  rw [dropEndWhile, List.reverse_eq_nil_iff, List.dropWhile_eq_nil_iff, List.reverse_replicate]
  intro c member
  rw [List.eq_of_mem_replicate member]
  decide

theorem dropEndWhile_padEnd {cell : Nat} {s : String} (word : IsWord s) :
    dropEndWhile isBlank (padEnd cell s).toList = s.toList := by
  rw [toList_padEnd, dropEndWhile_append, if_pos (dropEndWhile_replicate _),
    word.trimmed.dropEndWhile_eq]

/-- Cells hold words, with room for two blanks behind each. -/
def Fits (cell : Nat) (row : List String) : Prop := ∀ i ∈ row, IsWord i ∧ i.length + 2 ≤ cell

/-- The cells of a row, each with its blanks. -/
def cells (cell : Nat) (row : List String) : List Char :=
  row.flatMap fun i => (padEnd cell i).toList

/-- The word at an index of a line begins after so many characters. -/
def BeginsAt (line : String) (index offset : Nat) : Prop :=
  ∃ before after, line = before ++ after ∧ before.length = offset ∧
    (words before).length = index ∧ (∀ b ∈ before.toList.getLast?, isBlank b = true) ∧
    ∃ c ∈ after.toList.head?, isBlank c = false

section RowText

variable {cell : Nat} {i last : String} {row front after : List String}

theorem toList_join_padEnd (cell : Nat) (row : List String) :
    (String.join (row.map (padEnd cell))).toList = cells cell row := by
  rw [String.toList_join, List.flatMap_map, cells]

theorem cells_append (cell : Nat) (front after : List String) :
    cells cell (front ++ after) = cells cell front ++ cells cell after := List.flatMap_append

theorem cells_single (cell : Nat) (i : String) : cells cell [i] = (padEnd cell i).toList :=
  List.flatMap_singleton _ _

theorem length_cells (fits : Fits cell row) : (cells cell row).length = cell * row.length := by
  induction row with
  | nil => rfl
  | cons i row ih =>
    have room := (fits i List.mem_cons_self).2
    have later := ih fun j member => fits j (List.mem_cons_of_mem i member)
    rw [← List.singleton_append, cells_append, cells_single, toList_padEnd, List.length_append,
      List.length_append, List.length_replicate, later, String.length_toList, List.length_append,
      List.length_singleton, Nat.mul_add]
    omega

/-- Cells end in a blank. -/
theorem cells_cut (fits : Fits cell row) : ∀ b ∈ (cells cell row).getLast?, isBlank b = true := by
  rcases List.eq_nil_or_concat row with rfl | ⟨front, last, rfl⟩
  · exact nofun
  · obtain ⟨-, room⟩ := fits last (by simp)
    rw [List.concat_eq_append, cells_append, cells_single, toList_padEnd, ← List.append_assoc,
      List.getLast?_append_of_ne_nil _ (by simp; omega), List.getLast?_replicate]
    intro b ends
    split at ends
    · cases ends
    · cases ends
      decide

theorem pieces_word (word : IsWord i) : piecesFrom isBlank [] i.toList = [i.toList] :=
  piecesFrom_inside word.2 word.filled []

theorem pieces_cells (fits : Fits cell row) :
    piecesFrom isBlank [] (cells cell row) = row.map String.toList := by
  induction row with
  | nil => rfl
  | cons i row ih =>
    obtain ⟨word, room⟩ := fits i List.mem_cons_self
    have first : Fits cell [i] := fun j member => fits j (by simp_all)
    have own : piecesFrom isBlank [] (cells cell [i]) = [i.toList] := by
      obtain ⟨more, gap_⟩ : ∃ more, cell - i.length = more + 1 := ⟨cell - i.length - 1, by omega⟩
      rw [cells_single, toList_padEnd, gap_, List.replicate_succ,
        piecesFrom_separated (by decide), pieces_word word,
        piecesFrom_separators fun c member => List.eq_of_mem_replicate member ▸ by decide]
      rfl
    rw [← List.singleton_append, cells_append, piecesFrom_cut (cells_cut first), own,
      ih fun j member => fits j (List.mem_cons_of_mem i member)]
    rfl

/-- The text of a row: its cells, the last of them without the blanks. -/
theorem toList_rowText (fits : Fits cell (front ++ [last])) :
    (rowText cell (front ++ [last])).toList = cells cell front ++ last.toList := by
  have word := (fits last (by simp)).1
  rw [rowText, trimEnd, String.toList_ofList, toList_join_padEnd, cells_append, cells_single,
    dropEndWhile_append, dropEndWhile_padEnd word, if_neg word.filled]

theorem length_rowText (fits : Fits cell (front ++ [last])) :
    (rowText cell (front ++ [last])).length = cell * front.length + last.length := by
  have before : Fits cell front := fun i member => fits i (List.mem_append_left _ member)
  rw [← String.length_toList, toList_rowText fits, List.length_append, length_cells before,
    String.length_toList]

/-- A row begins with a character of its first item. -/
theorem rowText_ink (fits : Fits cell (front ++ [last])) :
    ∃ c cs, cells cell front ++ last.toList = c :: cs ∧ isBlank c = false := by
  have begins {s : String} (word : IsWord s) (rest : List Char) :
      ∃ c cs, s.toList ++ rest = c :: cs ∧ isBlank c = false := by
    obtain ⟨c, cs, chars⟩ := List.exists_cons_of_ne_nil word.filled
    exact ⟨c, cs ++ rest, by rw [chars, List.cons_append], word.2 c (by simp [chars])⟩
  cases front with
  | nil => simpa [cells] using begins (fits last (by simp)).1 []
  | cons i front =>
    rw [← List.singleton_append, cells_append, cells_single, toList_padEnd, List.append_assoc,
      List.append_assoc]
    exact begins (fits i (by simp)).1 _

theorem words_rowText (fits : Fits cell row) : words (rowText cell row) = row := by
  rcases List.eq_nil_or_concat row with rfl | ⟨front, last, rfl⟩
  · rw [rowText_nil]
    rfl
  · rw [List.concat_eq_append] at fits ⊢
    have before : Fits cell front := fun i member => fits i (List.mem_append_left _ member)
    have word := (fits last (by simp)).1
    rw [words, toList_rowText fits, piecesFrom_cut (cells_cut before), pieces_cells before,
      pieces_word word]
    simp

/-- The words of a row begin at the cells. -/
theorem beginsAt_rowText (fits : Fits cell row) {j : Nat} (inside : j < row.length) :
    BeginsAt (rowText cell row) j (cell * j) := by
  rcases List.eq_nil_or_concat row with rfl | ⟨front, last, rfl⟩
  · cases inside
  · rw [List.concat_eq_append] at fits inside ⊢
    have reaches : j ≤ front.length := by
      rw [List.length_append, List.length_singleton] at inside
      omega
    have before : Fits cell (front.take j) := fun i member =>
      fits i (List.mem_append_left _ (List.mem_of_mem_take member))
    have behind : Fits cell (front.drop j ++ [last]) := by
      intro i member
      refine fits i ?_
      rcases List.mem_append.mp member with left | right
      · exact List.mem_append_left _ (List.mem_of_mem_drop left)
      · exact List.mem_append_right _ right
    obtain ⟨c, cs, begins, ink⟩ := rowText_ink behind
    refine ⟨String.ofList (cells cell (front.take j)), String.ofList (c :: cs), ?_, ?_, ?_, ?_, ?_⟩
    · rw [← String.ofList_append, ← begins, ← List.append_assoc, ← cells_append,
        List.take_append_drop, ← toList_rowText fits, String.ofList_toList]
    · rw [String.length_ofList, length_cells before, List.length_take, Nat.min_eq_left reaches]
    · rw [words, String.toList_ofList, pieces_cells before, List.length_map, List.length_map,
        List.length_take, Nat.min_eq_left reaches]
    · rw [String.toList_ofList]
      exact cells_cut before
    · rw [String.toList_ofList]
      exact ⟨c, rfl, ink⟩

theorem rowText_unbroken (fits : Fits cell row) :
    ∀ c ∈ (rowText cell row).toList, isLineEnd c = false := by
  rcases List.eq_nil_or_concat row with rfl | ⟨front, last, rfl⟩
  · rw [rowText_nil]
    exact List.forall_mem_nil _
  · rw [List.concat_eq_append] at fits ⊢
    have whole {i : String} (word : IsWord i) {c : Char} (member : c ∈ i.toList) :
        isLineEnd c = false :=
      Bool.eq_false_iff.mpr fun ends =>
        absurd (isBlank_of_isLineEnd ends) (by simp [word.2 c member])
    intro c member
    rw [toList_rowText fits, List.mem_append, cells, List.mem_flatMap] at member
    rcases member with ⟨i, inside, member⟩ | member
    · rw [toList_padEnd, List.mem_append] at member
      rcases member with own | gap
      · exact whole (fits i (List.mem_append_left _ inside)).1 own
      · rw [List.eq_of_mem_replicate gap]
        decide
    · exact whole (fits last (by simp)).1 member

end RowText

/-! ## Rows one under another -/

theorem lines_intercalate {rows : List String}
    (whole : ∀ row ∈ rows, row ≠ "" ∧ ∀ c ∈ row.toList, isLineEnd c = false) :
    lines ("\n".intercalate rows) = rows := by
  induction rows with
  | nil => rfl
  | cons row rows ih =>
    obtain ⟨filled, unbroken⟩ := whole row List.mem_cons_self
    cases rows with
    | nil =>
      rw [String.intercalate_singleton, lines_unbroken unbroken, if_neg (by simpa using filled)]
    | cons next rows =>
      rw [String.intercalate_cons_cons, lines_append unbroken,
        ih fun r member => whole r (List.mem_cons_of_mem row member)]

theorem words_intercalate (rows : List String) :
    words ("\n".intercalate rows) = (rows.map words).flatten := by
  induction rows with
  | nil => rfl
  | cons row rows ih =>
    cases rows with
    | nil => simp
    | cons next rows =>
      have feed : (row ++ "\n" ++ "\n".intercalate (next :: rows)).toList =
          row.toList ++ '\n' :: ("\n".intercalate (next :: rows)).toList := by
        rw [String.toList_append, String.toList_append, List.append_assoc]
        rfl
      rw [String.intercalate_cons_cons, words, feed, piecesFrom_separated (by decide),
        List.map_append, ← words, ← words, ih, List.map_cons (l := next :: rows),
        List.flatten_cons]

/-! ## The width of cells and the number of columns -/

section Widths

variable {items : List String}

theorem le_foldl_max (items : List String) (w : Nat) :
    w ≤ items.foldl (fun w i => max w i.length) w ∧
      ∀ i ∈ items, i.length ≤ items.foldl (fun w i => max w i.length) w := by
  induction items generalizing w with
  | nil => exact ⟨le_rfl, List.forall_mem_nil _⟩
  | cons j items ih =>
    obtain ⟨start, others⟩ := ih (max w j.length)
    exact ⟨(le_max_left _ _).trans start,
      List.forall_mem_cons.mpr ⟨(le_max_right _ _).trans start, others⟩⟩

theorem length_add_two_le {i : String} (member : i ∈ items) : i.length + 2 ≤ cellWidth items :=
  Nat.add_le_add_right ((le_foldl_max items 0).2 i member) 2

theorem columnCount_pos (width : Int) (cell : Nat) : 0 < columnCount width cell := by
  unfold columnCount
  omega

/-- Several cells fit on a line together. -/
theorem cells_fit {width : Int} {cell : Nat} (wide : 0 < cell)
    (several : 1 < columnCount width cell) :
    ((cell * columnCount width cell : Nat) : Int) ≤ width := by
  have whole : (columnCount width cell : Int) = width / cell := by
    unfold columnCount at *
    rw [Int.fdiv_eq_ediv_of_nonneg _ (by omega)] at *
    omega
  rw [Int.natCast_mul, whole]
  exact Int.mul_ediv_self_le (by omega)

end Widths

/-! ## Whole texts -/

section Tablify

variable {items : List String} (whole : ∀ i ∈ items, IsWord i) (width : Int)
include whole

theorem fits_of_mem_rowsOf {n : Nat} {row : List String} (member : row ∈ rowsOf n items) :
    Fits (cellWidth items) row := by
  intro i inside
  have own : i ∈ items := flatten_rowsOf n items ▸ List.mem_flatten_of_mem member inside
  exact ⟨whole i own, length_add_two_le own⟩

theorem lines_tablify : lines (tablify width items) =
    (rowsOf (columnCount width (cellWidth items)) items).map (rowText (cellWidth items)) := by
  rw [tablify_eq]
  refine lines_intercalate fun text member => ?_
  obtain ⟨row, inside, rfl⟩ := List.mem_map.mp member
  have fits := fits_of_mem_rowsOf whole inside
  refine ⟨fun blank => filled_of_mem_rowsOf inside ?_, rowText_unbroken fits⟩
  rw [← words_rowText fits, blank]
  rfl

theorem words_tablify : words (tablify width items) = items := by
  have read (n : Nat) :
      (rowsOf n items).map (words ∘ rowText (cellWidth items)) = rowsOf n items := by
    refine Eq.trans (List.map_congr_left fun row member => ?_) (List.map_id _)
    rw [Function.comp_apply, words_rowText (fits_of_mem_rowsOf whole member), id_eq]
  rw [tablify_eq, words_intercalate, List.map_map, read, flatten_rowsOf]

/-- A row of several items is no longer than the width. -/
theorem length_rowText_le {row : List String}
    (member : row ∈ rowsOf (columnCount width (cellWidth items)) items) :
    ((rowText (cellWidth items) row).length : Int) ≤ width ∨
      ∃ i ∈ items, (rowText (cellWidth items) row).length ≤ i.length := by
  have fits := fits_of_mem_rowsOf whole member
  have within := length_of_mem_rowsOf (columnCount_pos width (cellWidth items)) member
  have own : ∀ i ∈ row, i ∈ items := fun i inside =>
    flatten_rowsOf (columnCount width (cellWidth items)) items ▸
      List.mem_flatten_of_mem member inside
  rcases List.eq_nil_or_concat row with rfl | ⟨front, last, rfl⟩
  · exact absurd rfl (filled_of_mem_rowsOf member)
  · rw [List.concat_eq_append] at fits within own ⊢
    rw [length_rowText fits]
    cases front with
    | nil => exact .inr ⟨last, own last (by simp), by simp⟩
    | cons i front =>
      have room := (fits last (by simp)).2
      rw [List.length_append, List.length_singleton] at within
      have several : 1 < columnCount width (cellWidth items) := by
        rw [List.length_cons] at within
        omega
      have wide := cells_fit (by omega) several
      have row_ := Nat.mul_le_mul_left (cellWidth items) within
      rw [Nat.mul_add] at row_
      left
      omega

/-- Items without blanks, laid out in columns, are the words of the text in their order. No line is
longer than the width, unless a single item is. The lines hold equally many items, the last one
perhaps fewer, and items of one column begin at one place. -/
theorem columns_laid_out :
    words (tablify width items) = items ∧
    (∀ line ∈ lines (tablify width items),
      (line.length : Int) ≤ width ∨ ∃ i ∈ items, line.length ≤ i.length) ∧
    ∃ n, 0 < n ∧
      (∀ line ∈ (lines (tablify width items)).dropLast, (words line).length = n) ∧
      (∀ line ∈ (lines (tablify width items)).getLast?, (words line).length ≤ n) ∧
      ∃ offset : Nat → Nat, ∀ line ∈ lines (tablify width items), ∀ j < (words line).length,
        BeginsAt line j (offset j) := by
  have held {row : List String}
      (member : row ∈ rowsOf (columnCount width (cellWidth items)) items) :
      words (rowText (cellWidth items) row) = row :=
    words_rowText (fits_of_mem_rowsOf whole member)
  have room := columnCount_pos width (cellWidth items)
  rw [lines_tablify whole width]
  refine ⟨words_tablify whole width, ?_, columnCount width (cellWidth items), room, ?_, ?_,
    (cellWidth items * ·), ?_⟩
  · intro line member
    obtain ⟨row, inside, rfl⟩ := List.mem_map.mp member
    exact length_rowText_le whole width inside
  · intro line member
    rw [← List.map_dropLast] at member
    obtain ⟨row, inside, rfl⟩ := List.mem_map.mp member
    rw [held (List.dropLast_subset _ inside)]
    exact length_of_mem_dropLast_rowsOf room inside
  · intro line last
    obtain ⟨row, inside, rfl⟩ := List.mem_map.mp (List.mem_of_mem_getLast? last)
    rw [held inside]
    exact length_of_mem_rowsOf room inside
  · intro line member j within
    obtain ⟨row, inside, rfl⟩ := List.mem_map.mp member
    rw [held inside] at within
    exact beginsAt_rowText (fits_of_mem_rowsOf whole inside) within

end Tablify

/-- Two rows of two columns, the second not full. -/
theorem three_items_laid_out :
    (∀ i ∈ ["ab", "c", "def"], IsWord i) ∧ tablify 10 ["ab", "c", "def"] = "ab   c\ndef" ∧
      words "ab   c\ndef" = ["ab", "c", "def"] ∧
      ∃ offset : Nat → Nat, ∀ line ∈ ["ab   c", "def"], ∀ j < (words line).length,
        BeginsAt line j (offset j) := by
  have whole : ∀ i ∈ ["ab", "c", "def"], IsWord i := by decide +kernel
  have text : tablify 10 ["ab", "c", "def"] = "ab   c\ndef" := by decide +kernel
  have rows : lines "ab   c\ndef" = ["ab   c", "def"] := by decide +kernel
  obtain ⟨read, -, n, -, -, -, columns⟩ := columns_laid_out whole 10
  rw [text] at read columns
  rw [rows] at columns
  exact ⟨whole, text, read, columns⟩

end NestShell.Text

import Mathlib.Data.List.Basic
import NestShell.Text.Lines

/-!
# Pieces of a text

A text is cut at each of the ten characters that end a line. The pieces with something in them are
those of the lines, and the lines are the same where carriage returns have become line feeds.
-/

namespace NestShell.Text

/-- The characters at which lines end. -/
def lineEnds : List Char :=
  ['\n', '\r', '\x0b', '\x0c', '\x1c', '\x1d', '\x1e', '\u0085', '\u2028', '\u2029']

/-- The pieces between line ends, empty ones included. -/
def pieces (s : String) : List String := (s.toList.splitOnP lineEnds.contains).map String.ofList

theorem isLineEnd_eq (c : Char) : isLineEnd c = lineEnds.contains c := by
  have same (n : Nat) (d : Char) (code : d.toNat = n) : (c == d) = (c.toNat == n) := by
    rw [Bool.eq_iff_iff, beq_iff_eq, beq_iff_eq, ← code]
    exact ⟨congrArg Char.toNat, fun h => Char.toNat_inj.mp h⟩
  rw [Bool.eq_iff_iff]
  simp only [isLineEnd, lineEnds, List.contains_cons, List.contains_nil, Bool.or_false,
    same 10 '\n' rfl, same 13 '\r' rfl, same 11 '\x0b' rfl, same 12 '\x0c' rfl, same 28 '\x1c' rfl,
    same 29 '\x1d' rfl, same 30 '\x1e' rfl, same 0x85 '\u0085' rfl, same 0x2028 '\u2028' rfl,
    same 0x2029 '\u2029' rfl, Bool.or_eq_true, Bool.and_eq_true, decide_eq_true_eq, beq_iff_eq]
  omega

theorem isBlank_of_isLineEnd {c : Char} (h : isLineEnd c = true) : isBlank c = true := by
  simp only [isLineEnd, isBlank, Bool.or_eq_true, Bool.and_eq_true, decide_eq_true_eq,
    beq_iff_eq] at h ⊢
  omega

/-! ## Pieces with something in them -/

/-- Whether characters are not all blank. -/
def isFilled (cs : List Char) : Bool := !cs.all isBlank

/-- The pieces of characters with something in them; the open piece is held in reverse. -/
def filledFrom (open_ cs : List Char) : List (List Char) :=
  ((cs.splitOnP isLineEnd).modifyHead (open_.reverse ++ ·)).filter isFilled

theorem filledFrom_nil (cs : List Char) :
    filledFrom [] cs = (cs.splitOnP isLineEnd).filter isFilled := by
  rw [filledFrom, ← List.splitOnPPrepend_eq_modifyHead, List.splitOnPPrepend_nil_right]

theorem filter_cons_eq (p : List Char) (ps : List (List Char)) :
    (p :: ps).filter isFilled = [p].filter isFilled ++ ps.filter isFilled := by
  rw [← List.filter_append, List.singleton_append]

theorem filledFrom_end {c : Char} (ends : isLineEnd c = true) (open_ cs : List Char) :
    filledFrom open_ (c :: cs) = [open_.reverse].filter isFilled ++ filledFrom [] cs := by
  rw [filledFrom, ← List.splitOnPPrepend_eq_modifyHead, List.splitOnPPrepend_cons_pos ends,
    filter_cons_eq, filledFrom_nil]

theorem filledFrom_other {c : Char} (goesOn : isLineEnd c = false) (open_ cs : List Char) :
    filledFrom open_ (c :: cs) = filledFrom (c :: open_) cs := by
  rw [filledFrom, ← List.splitOnPPrepend_eq_modifyHead, List.splitOnPPrepend_cons_neg goesOn,
    List.splitOnPPrepend_eq_modifyHead, filledFrom]

/-- Nothing is between two line ends. -/
theorem filledFrom_end_end {c d : Char} (first : isLineEnd c = true) (second : isLineEnd d = true)
    (open_ cs : List Char) : filledFrom open_ (c :: d :: cs) = filledFrom open_ (d :: cs) := by
  rw [filledFrom_end first, filledFrom_end second, filledFrom_end second]
  rfl

theorem filledFrom_append_end {c : Char} (ends : isLineEnd c = true) (before after : List Char) :
    filledFrom [] (before ++ c :: after) = filledFrom [] before ++ filledFrom [] after := by
  simp only [filledFrom_nil, List.splitOnP_append_cons before after ends, List.filter_append]

/-- The lines of a text are its pieces, but for empty ones. -/
theorem filter_linesFrom (open_ cs : List Char) :
    ((linesFrom open_ cs).map Prod.fst).filter isFilled = filledFrom open_ cs := by
  fun_induction linesFrom open_ cs with
  | case1 => rfl
  | case2 => simp [filledFrom]
  | case3 open_ cs ih =>
    rw [filledFrom_end_end rfl rfl, filledFrom_end rfl, ← ih]
    rw [List.map_cons, filter_cons_eq]
  | case4 open_ c cs other ends ih =>
    rw [filledFrom_end ends, ← ih, List.map_cons, filter_cons_eq]
  | case5 open_ c cs other goesOn ih =>
    rw [filledFrom_other (by simpa using goesOn), ih]

/-! ## Lines one after another -/

/-- A carriage return before a line feed is the only character that is not read alone. -/
theorem linesFrom_cons {c : Char} {cs : List Char} (alone : c = '\r' → cs.head? ≠ some '\n')
    (open_ : List Char) : linesFrom open_ (c :: cs) =
      if isLineEnd c then (open_.reverse, [c]) :: linesFrom [] cs
      else linesFrom (c :: open_) cs := by
  rw [linesFrom]
  rintro rest rfl rfl
  exact alone rfl rfl

theorem linesFrom_unbroken {cs : List Char} (unbroken : ∀ c ∈ cs, isLineEnd c = false)
    (open_ rest : List Char) :
    linesFrom open_ (cs ++ rest) = linesFrom (cs.reverse ++ open_) rest := by
  induction cs generalizing open_ with
  | nil => rfl
  | cons c cs ih =>
    have goesOn := unbroken c List.mem_cons_self
    have alone : c ≠ '\r' := by
      rintro rfl
      cases goesOn
    rw [List.cons_append, linesFrom_cons fun same => absurd same alone, if_neg (by simp [goesOn]),
      ih fun d member => unbroken d (List.mem_cons_of_mem c member)]
    simp

theorem linesFrom_unended {l : List Char} (unbroken : ∀ c ∈ l, isLineEnd c = false)
    (filled : l ≠ []) : linesFrom [] l = [(l, [])] := by
  have whole := linesFrom_unbroken unbroken [] []
  rw [List.append_nil, List.append_nil] at whole
  rw [whole, linesFrom]
  · rw [List.reverse_reverse]
  · simpa using filled

theorem linesFrom_ended {l : List Char} {c : Char} (unbroken : ∀ d ∈ l, isLineEnd d = false)
    (ends : isLineEnd c = true) (other : c ≠ '\r') (rest : List Char) :
    linesFrom [] (l ++ c :: rest) = (l, [c]) :: linesFrom [] rest := by
  rw [linesFrom_unbroken unbroken, linesFrom_cons fun same => absurd same other, if_pos ends,
    List.append_nil, List.reverse_reverse]

theorem isLineEnd_of_mem_linesFrom {open_ cs : List Char}
    (unbroken : ∀ c ∈ open_, isLineEnd c = false) :
    ∀ line ∈ linesFrom open_ cs, ∀ c ∈ line.1, isLineEnd c = false := by
  fun_induction linesFrom open_ cs with
  | case1 => exact List.forall_mem_nil _
  | case2 open_ filled => simpa using unbroken
  | case3 open_ cs ih =>
    rw [List.forall_mem_cons]
    exact ⟨by simpa using unbroken, ih (List.forall_mem_nil _)⟩
  | case4 open_ c cs other ends ih =>
    rw [List.forall_mem_cons]
    exact ⟨by simpa using unbroken, ih (List.forall_mem_nil _)⟩
  | case5 open_ c cs other goesOn ih =>
    exact ih (List.forall_mem_cons.mpr ⟨by simpa using goesOn, unbroken⟩)

theorem linesFrom_unifyLineEnds (open_ cs : List Char) :
    (linesFrom open_ (unifyLineEnds cs)).map Prod.fst = (linesFrom open_ cs).map Prod.fst := by
  fun_induction unifyLineEnds cs generalizing open_ with
  | case1 => rfl
  | case2 cs ih =>
    rw [linesFrom_cons (by simp), if_pos (by decide), linesFrom, List.map_cons, List.map_cons, ih]
  | case3 cs other ih =>
    have alone : cs.head? ≠ some '\n' := by
      intro first
      obtain ⟨rest, rfl⟩ := List.head?_eq_some_iff.mp first
      exact other rest rfl
    rw [linesFrom_cons (by simp), linesFrom_cons fun _ => alone, if_pos (by decide),
      if_pos (by decide), List.map_cons, List.map_cons, ih]
  | case4 c cs crlf cr ih =>
    rw [linesFrom_cons fun same => absurd same cr, linesFrom_cons fun same => absurd same cr]
    split
    · rw [List.map_cons, List.map_cons, ih]
    · exact ih _

/-! ## Lines and pieces as texts -/

/-- The pieces of a text that are not blank. -/
def filledPieces (s : String) : List String := (pieces s).filter fun p => !isAllBlank p

theorem filter_map_ofList (ps : List (List Char)) :
    (ps.map String.ofList).filter (fun p => !isAllBlank p) =
      (ps.filter isFilled).map String.ofList := by
  have same : (fun p => !isAllBlank p) ∘ String.ofList = isFilled := by
    funext cs
    simp only [Function.comp_apply, isAllBlank, isFilled, String.toList_ofList]
  rw [List.filter_map, same]

theorem filledPieces_eq (s : String) :
    filledPieces s = (filledFrom [] s.toList).map String.ofList := by
  have same : lineEnds.contains = isLineEnd := by
    funext c
    exact (isLineEnd_eq c).symm
  rw [filledPieces, pieces, filter_map_ofList, filledFrom_nil, same]

theorem lines_eq (s : String) :
    lines s = ((linesFrom [] s.toList).map Prod.fst).map String.ofList := by
  rw [lines, List.map_map]
  rfl

/-- Reading a text file leaves the lines as they are. -/
theorem lines_universalNewlines (s : String) : lines (universalNewlines s) = lines s := by
  rw [lines_eq, lines_eq, universalNewlines, String.toList_ofList, linesFrom_unifyLineEnds]

/-- The lines of a text that are not blank are its pieces. -/
theorem filter_lines (s : String) : ((lines s).filter fun l => !isAllBlank l) = filledPieces s := by
  rw [lines_eq, filter_map_ofList, filter_linesFrom, filledPieces_eq]

/-- Texts that are joined by line feeds keep their pieces. -/
theorem filledPieces_joined (texts : List String) :
    filledPieces ("\n".intercalate texts ++ "\n") = texts.flatMap filledPieces := by
  have ended (s t : String) : filledPieces (s ++ "\n" ++ t) = filledPieces s ++ filledPieces t := by
    simp only [filledPieces_eq, String.toList_append, List.append_assoc]
    rw [← List.map_append, ← filledFrom_append_end (c := '\n') rfl]
    rfl
  have last (s : String) : filledPieces (s ++ "\n") = filledPieces s := by
    have whole := ended s ""
    rwa [String.append_empty, show filledPieces "" = [] from by decide, List.append_nil] at whole
  induction texts with
  | nil => decide
  | cons s texts ih =>
    cases texts with
    | nil => simp [last]
    | cons t texts =>
      rw [String.intercalate_cons_cons, String.append_assoc, ended, ih]
      rfl

/-- A text without line ends is one piece. -/
theorem pieces_of_unbroken {s : String} (unbroken : ∀ c ∈ s.toList, c ∉ lineEnds) :
    pieces s = [s] := by
  rw [pieces, List.splitOnP_eq_singleton, List.map_singleton, String.ofList_toList]
  intro c member
  simpa using unbroken c member

/-- No piece of a text has a line end. -/
theorem unbroken_of_mem_pieces {s p : String} (piece : p ∈ pieces s) :
    ∀ c ∈ p.toList, c ∉ lineEnds := by
  have unbroken (cs : List Char) :
      ∀ q ∈ cs.splitOnP lineEnds.contains, ∀ c ∈ q, c ∉ lineEnds := by
    induction cs with
    | nil => simp
    | cons d cs ih =>
      rw [List.splitOnP_cons_eq_if_modifyHead]
      intro q member
      split at member
      · rcases List.mem_cons.mp member with rfl | later
        · exact nofun
        · exact ih q later
      · next goesOn =>
        obtain ⟨first, rest, split_⟩ := List.exists_cons_of_ne_nil
          (List.splitOnP_ne_nil lineEnds.contains cs)
        rw [split_] at ih
        rw [split_, List.modifyHead_cons] at member
        rcases List.mem_cons.mp member with rfl | later
        · intro c inside
          rcases List.mem_cons.mp inside with rfl | inside
          · simpa using goesOn
          · exact ih first List.mem_cons_self c inside
        · exact ih q (List.mem_cons_of_mem _ later)
  obtain ⟨q, member, rfl⟩ := List.mem_map.mp piece
  rw [String.toList_ofList]
  exact unbroken s.toList q member

end NestShell.Text

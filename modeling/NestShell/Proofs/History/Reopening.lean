import Mathlib.Data.List.DropRight
import NestShell.History.Store
import NestShell.Proofs.Files.Tree
import NestShell.Proofs.Text.Lines
import NestShell.Proofs.Text.Wide

/-!
# Opening a history again

The file of a history holds its entries line by line, so an entry in which a line ends is several
when the file is read again. An entry with a surrogate cannot be written, and the file is empty when
that is found out. What reading gives is told by the entries alone, whether they were written or come
from the file as it was; from this it follows when a history is found as it was left.
-/

namespace NestShell.History

open NestShell.Files NestShell.Text HistoryOf

/-! ## Entries -/

/-- A text as histories keep them: its first character ends no line, its last one is not blank. -/
structure IsEntry (e : String) : Prop where
  filled : e.toList ≠ []
  begins : isLineEnd (e.toList.head filled) = false
  ends : isBlank (e.toList.getLast filled) = false

/-- Whether a line ends within a text, with something on both sides. -/
def BreaksInside (t : WideText) : Prop :=
  ∃ c ∈ lineEnds, ∃ before after,
    before ≠ [] ∧ after ≠ [] ∧ t.points = before ++ .char c :: after

theorem not_breaksInside {t : WideText} (unbroken : ∀ c ∈ lineEnds, .char c ∉ t.points) :
    ¬ BreaksInside t := by
  rintro ⟨c, ends, before, after, -, -, cut⟩
  exact unbroken c ends (by simp [cut])

theorem dropEndWhile_eq (p : Char → Bool) (cs : List Char) :
    dropEndWhile p cs = cs.rdropWhile p := rfl

/-- What is left of characters that begin a line, without the blanks at their end. -/
theorem isEntry_dropEndWhile {cs : List Char} (begins : ∀ c ∈ cs.head?, isLineEnd c = false)
    (filled : dropEndWhile isBlank cs ≠ []) : IsEntry (String.ofList (dropEndWhile isBlank cs)) := by
  have same : (String.ofList (dropEndWhile isBlank cs)).toList = dropEndWhile isBlank cs :=
    String.toList_ofList
  refine ⟨by rwa [same], ?_, ?_⟩
  · have front : dropEndWhile isBlank cs <+: cs := List.rdropWhile_prefix isBlank cs
    apply begins
    simp only [same]
    rw [front.head filled]
    exact List.head_mem_head? _
  · simp only [same]
    exact Bool.eq_false_iff.mpr (List.rdropWhile_last_not isBlank cs filled)

/-- What is left between blanks neither begins nor ends with one. -/
theorem isBlank_ends {ps qs : List CodePoint}
    (trimmed : (ps.dropWhile CodePoint.isBlank).rdropWhile CodePoint.isBlank = qs)
    (filled : qs ≠ []) : (qs.head filled).isBlank = false ∧ (qs.getLast filled).isBlank = false := by
  subst trimmed
  constructor
  · have front := List.rdropWhile_prefix CodePoint.isBlank (ps.dropWhile CodePoint.isBlank)
    rw [front.head filled]
    exact List.head_dropWhile_not CodePoint.isBlank _
  · exact Bool.eq_false_iff.mpr (List.rdropWhile_last_not CodePoint.isBlank _ filled)

/-- What is left of a line without the blanks at its ends is an entry, if it is a string. -/
theorem isEntry_of_trim {line : WideText} {s : String} (filled : line.trim.points ≠ [])
    (same : line.trim = .ofString s) : IsEntry s := by
  have points : line.trim.points = s.toList.map .char := congrArg WideText.points same
  obtain ⟨begins, ends⟩ := isBlank_ends points (points ▸ filled)
  rw [List.head_map] at begins
  rw [List.getLast_map] at ends
  refine ⟨by simpa [points] using filled, ?_, ends⟩
  exact Bool.eq_false_iff.mpr fun lineEnd => by
    simp [CodePoint.isBlank, isBlank_of_isLineEnd lineEnd] at begins

theorem isEntry_trimEnd {p : String} (unbroken : ∀ c ∈ p.toList, c ∉ lineEnds)
    (filled : isAllBlank p = false) : IsEntry (trimEnd p) := by
  apply isEntry_dropEndWhile
  · intro c first
    rw [isLineEnd_eq]
    simpa using unbroken c (List.mem_of_mem_head? first)
  · intro empty
    have blank := List.rdropWhile_eq_nil_iff.mp (dropEndWhile_eq isBlank p.toList ▸ empty)
    rw [isAllBlank, List.all_eq_true.mpr blank] at filled
    cases filled

theorem unbroken_trimEnd {p : String} (unbroken : ∀ c ∈ p.toList, c ∉ lineEnds) :
    ∀ c ∈ (trimEnd p).toList, c ∉ lineEnds := by
  intro c member
  rw [trimEnd, String.toList_ofList] at member
  exact unbroken c ((List.rdropWhile_prefix isBlank p.toList).subset member)

namespace IsEntry

variable {e : String}

theorem trimEnd_eq (entry : IsEntry e) : trimEnd e = e := by
  have kept : e.toList.rdropWhile isBlank = e.toList :=
    List.rdropWhile_eq_self_iff.mpr fun _ blank => by simp [entry.ends] at blank
  rw [trimEnd, dropEndWhile_eq, kept, String.ofList_toList]

theorem isAllBlank_eq (entry : IsEntry e) : isAllBlank e = false := by
  rw [isAllBlank, List.all_eq_false]
  exact ⟨_, List.getLast_mem entry.filled, by simp [entry.ends]⟩

/-- Lines only end within an entry. -/
theorem breaksInside_iff (entry : IsEntry e) :
    ¬ BreaksInside (.ofString e) ↔ ∀ c ∈ e.toList, c ∉ lineEnds := by
  constructor
  · intro whole c member ends
    obtain ⟨before, after, cut⟩ := List.append_of_mem member
    have lineEnd : isLineEnd c = true := by rw [isLineEnd_eq]; simpa using ends
    refine whole ⟨c, ends, before.map .char, after.map .char, ?_, ?_,
      by simp [WideText.ofString, cut]⟩
    · intro empty
      have begins := entry.begins
      simp [cut, List.map_eq_nil_iff.mp empty, lineEnd] at begins
    · intro empty
      have last := entry.ends
      simp [cut, List.map_eq_nil_iff.mp empty, isBlank_of_isLineEnd lineEnd] at last
  · intro unbroken
    refine not_breaksInside fun c ends inside => ?_
    exact unbroken c (by simpa [WideText.ofString] using inside) ends

end IsEntry

/-! ## Cutting again -/

/-- What entries are when they are cut wherever a line ends. -/
def cutAgain (limit : Nat) (entries : List String) : List String :=
  lastOf limit (((entries.flatMap pieces).filter fun p => !isAllBlank p).map trimEnd)

variable {limit : Nat} {entries : List String}

theorem mem_lastOf {α : Type} {n : Nat} {xs : List α} {x : α} (member : x ∈ lastOf n xs) :
    x ∈ xs := List.mem_of_mem_drop member

theorem length_lastOf {α : Type} (n : Nat) (xs : List α) : (lastOf n xs).length ≤ n := by
  rw [lastOf, List.length_drop]
  omega

theorem lastOf_eq {α : Type} {n : Nat} {xs : List α} (few : xs.length ≤ n) : lastOf n xs = xs := by
  rw [lastOf, Nat.sub_eq_zero_of_le few, List.drop_zero]

theorem cutAgain_nil (limit : Nat) : cutAgain limit [] = [] := List.drop_nil

/-- Cut texts are entries in which no line ends. -/
theorem isEntry_of_mem_cutAgain {e : String} (member : e ∈ cutAgain limit entries) :
    IsEntry e ∧ ∀ c ∈ e.toList, c ∉ lineEnds := by
  obtain ⟨p, found, rfl⟩ := List.mem_map.mp (mem_lastOf member)
  obtain ⟨piece, filled⟩ := List.mem_filter.mp found
  obtain ⟨s, -, inside⟩ := List.mem_flatMap.mp piece
  have unbroken := unbroken_of_mem_pieces inside
  exact ⟨isEntry_trimEnd unbroken (by simpa using filled), unbroken_trimEnd unbroken⟩

theorem cutAgain_of_unbroken (few : entries.length ≤ limit) (kept : ∀ e ∈ entries, IsEntry e)
    (unbroken : ∀ e ∈ entries, ∀ c ∈ e.toList, c ∉ lineEnds) :
    cutAgain limit entries = entries := by
  have whole : entries.flatMap pieces = entries := by
    rw [List.flatMap_congr fun e member => pieces_of_unbroken (unbroken e member)]
    exact List.flatMap_singleton' entries
  have filled : (entries.filter fun p => !isAllBlank p) = entries :=
    List.filter_eq_self.mpr fun e member => by simp [(kept e member).isAllBlank_eq]
  have trimmed : entries.map trimEnd = entries := by
    rw [List.map_congr_left fun e member => (kept e member).trimEnd_eq, List.map_id']
  rw [cutAgain, whole, filled, trimmed, lastOf_eq few]

/-- Cutting leaves entries as they are where a line ends in none of them, and only there. -/
theorem cutAgain_eq_iff (few : entries.length ≤ limit) (kept : ∀ e ∈ entries, IsEntry e) :
    cutAgain limit entries = entries ↔ ∀ e ∈ entries, ¬ BreaksInside (.ofString e) := by
  constructor
  · intro same e member
    have cut : e ∈ cutAgain limit entries := by rwa [same]
    exact (kept e member).breaksInside_iff.mpr (isEntry_of_mem_cutAgain cut).2
  · intro whole
    exact cutAgain_of_unbroken few kept fun e member =>
      (kept e member).breaksInside_iff.mp (whole e member)

/-- This holds of entries that need not be strings, if nothing is left of those that are none. -/
theorem again_eq_iff {entries : List WideText} (few : entries.length ≤ limit)
    (kept : ∀ s, .ofString s ∈ entries → IsEntry s) :
    (cutAgain limit ((strings? entries).getD [])).map .ofString = entries ↔
      (strings? entries).isSome ∧ ∀ e ∈ entries, ¬ BreaksInside e := by
  cases strings : strings? entries with
  | none =>
    have filled : entries ≠ [] := by
      rintro rfl
      cases strings
    simpa [cutAgain_nil] using filled.symm
  | some written =>
    obtain rfl := strings?_eq_some.mp strings
    rw [List.length_map] at few
    have entry : ∀ e ∈ written, IsEntry e := fun e member => kept e (List.mem_map_of_mem member)
    rw [Option.getD_some, (List.map_injective_iff.mpr WideText.ofString_injective).eq_iff,
      cutAgain_eq_iff few entry, List.forall_mem_map]
    simp

/-! ## Reading the file -/

/-- Entries are read from the pieces of what the file holds. -/
theorem readEntries_universalNewlines (limit : Nat) (s : String) :
    readEntries limit (universalNewlines s) = cutAgain limit [s] := by
  rw [readEntries, lines_universalNewlines, filter_lines, cutAgain, List.flatMap_singleton]
  rfl

theorem readEntries_fileText (limit : Nat) (entries : List String) :
    readEntries limit (universalNewlines (fileText entries)) = cutAgain limit entries := by
  rw [readEntries, lines_universalNewlines, filter_lines, fileText, filledPieces_joined,
    cutAgain, List.filter_flatMap]
  rfl

/-- What reading a file gives a history with a limit. -/
def reread (limit : Nat) (t : Tree) (full : String) : List String :=
  ((t.readText full).toOption.map (readEntries limit)).getD []

/-- What is read from a text file has been made of its bytes. -/
theorem exists_of_readText {t : Tree} {full text : String} (read : t.readText full = .ok text) :
    ∃ s, text = universalNewlines s := by
  unfold Tree.readText at read
  split at read
  · cases read
  · split at read
    · cases read
    · split at read
      · cases read
      · next s _ =>
        cases read
        exact ⟨s, rfl⟩

theorem mem_reread {t : Tree} {full e : String} (member : e ∈ reread limit t full) :
    IsEntry e ∧ ∀ c ∈ e.toList, c ∉ lineEnds := by
  unfold reread at member
  cases read : t.readText full with
  | error f => simp [read, Except.toOption] at member
  | ok text =>
    obtain ⟨s, rfl⟩ := exists_of_readText read
    simp only [read, Except.toOption, Option.map_some, Option.getD_some,
      readEntries_universalNewlines] at member
    exact isEntry_of_mem_cutAgain member

theorem length_reread (limit : Nat) (t : Tree) (full : String) :
    (reread limit t full).length ≤ limit := by
  unfold reread
  cases (t.readText full).toOption with
  | none => exact Nat.zero_le _
  | some text => exact length_lastOf _ _

/-! ## Opening and saving -/

section Store

variable {α : Type} [EntryText α] {h : HistoryOf α} {t : Tree} {full : String}

/-- A history is opened of what its file gives. -/
theorem openAt_eq {homes : Homes} {path : String} (given : path ≠ "")
    (expands : Path.expandPlain? homes path = some full)
    (named : containsChar '\x00' full = false) (t : Tree) (limit : Int) :
    openAt t homes (some path) limit =
      .ok (ofText (some full) limit (t.readText full).toOption : HistoryOf α) := by
  have some_ : (some path).filter (fun p => !p.isEmpty) = some path := by simp [given]
  unfold openAt
  rw [some_]
  dsimp only
  rw [expands]
  dsimp only
  cases read : t.readText full with
  | ok text => rfl
  | error f =>
    cases f with
    | nullByte => simp [Tree.readText_ne_nullByte named] at read
    | failure | undecodable => rfl

/-- An opened history that has a file was opened from it. -/
theorem of_openAt {homes : Homes} {path : String} {limit : Int}
    (opened : openAt t homes (some path) limit = .ok h) (file : h.path = some full) :
    path ≠ "" ∧ Path.expandPlain? homes path = some full ∧ containsChar '\x00' full = false := by
  unfold openAt at opened
  by_cases empty : path = ""
  · rw [empty] at opened
    cases opened
    cases file
  have some_ : (some path).filter (fun p => !p.isEmpty) = some path := by simp [empty]
  rw [some_] at opened
  dsimp only at opened
  cases expands : Path.expandPlain? homes path with
  | none =>
    rw [expands] at opened
    cases opened
  | some there =>
    rw [expands] at opened
    dsimp only at opened
    cases named : containsChar '\x00' there with
    | true =>
      rw [Tree.readText, if_pos named] at opened
      cases opened
    | false =>
      have same : h.path = some there := by
        split at opened
        · cases opened
          rfl
        · cases opened
        · cases opened
          rfl
      obtain rfl : there = full := Option.some_inj.mp (same.symm.trans file)
      exact ⟨empty, rfl, named⟩

/-- A history is written to its file whole, or leaves it empty, and can be written again. -/
theorem save_keeps (path : h.path = some full) (writable : t.Keeps full) :
    (h.save t).1.Keeps full ∧
      (h.save t).1.read full =
        .ok (((strings? h.entries).map fun entries => Utf8.encode (fileText entries)).getD []) ∧
      ((h.save t).2 = none ↔ (strings? h.entries).isSome) := by
  obtain ⟨u, v, made, written, still, read⟩ := writable.write
    (((strings? h.entries).map fun entries => Utf8.encode (fileText entries)).getD [])
  have saved : (h.save t).1 = v ∧ ((h.save t).2 = none ↔ (strings? h.entries).isSome) := by
    simp [save, path, made, written, Option.isSome_iff_ne_none]
  rw [saved.1]
  exact ⟨still, read, saved.2⟩

theorem append_eq [BEq α] {line text : α} (added : h.entry? line = some text) :
    (h.append line).path = h.path ∧ (h.append line).limit = h.limit ∧
      (h.append line).entries = lastOf h.limit (h.entries ++ [text]) := by
  rw [append, added]
  exact ⟨rfl, rfl, rfl⟩

/-- A fault is raised where a line adds an entry and one of the entries is no string then. -/
theorem recordFault?_eq_none [BEq α] (path : h.path = some full) (writable : t.Keeps full)
    (line : α) : h.recordFault? t line = none ↔
      h.entry? line = none ∨ (strings? (h.append line).entries).isSome := by
  unfold recordFault?
  cases added : h.entry? line with
  | none => simp
  | some text =>
    have kept : (h.append line).path = some full := (append_eq added).1.trans path
    simp [(save_keeps kept writable).2.2]

/-- The lines of a session are strings, so appending them raises none. -/
theorem recordFault?_string (h : History) (t : Tree) (line : String) :
    h.recordFault? t line = none := by
  have quiet (h : History) : (h.save t).2 = none := by
    unfold save
    split
    · rfl
    · split
      · rfl
      · rw [strings?_eq]
        dsimp only
        split <;> rfl
  unfold recordFault?
  cases h.entry? line with
  | none => rfl
  | some text => exact quiet (h.append line)

end Store

/-! ## A history and its file -/

/-- A history whose file gives its entries back, cut wherever a line ends, or nothing where the
entries cannot be written. -/
structure Kept (h : HistoryOf WideText) (t : Tree) (full : String) : Prop where
  path : h.path = some full
  named : containsChar '\x00' full = false
  entries : ∀ s, .ofString s ∈ h.entries → IsEntry s
  few : h.entries.length ≤ h.limit
  again : reread h.limit t full = cutAgain h.limit ((strings? h.entries).getD [])
  writable : t.Keeps full

variable {h : HistoryOf WideText} {t : Tree} {full : String}

/-- The file of a history that was saved gives the entries, cut wherever a line ends, or nothing. -/
theorem kept_save (path : h.path = some full) (named : containsChar '\x00' full = false)
    (entries : ∀ s, .ofString s ∈ h.entries → IsEntry s) (few : h.entries.length ≤ h.limit)
    (writable : t.Keeps full) : Kept h (h.save t).1 full := by
  obtain ⟨still, read, -⟩ := save_keeps path writable
  refine ⟨path, named, entries, few, ?_, still⟩
  cases strings : strings? h.entries with
  | none =>
    rw [strings, Option.map_none, Option.getD_none] at read
    rw [reread, Tree.readText_of_decode named read (s := "") (by decide)]
    exact readEntries_universalNewlines h.limit ""
  | some written =>
    rw [strings, Option.map_some, Option.getD_some] at read
    rw [reread, Tree.readText_of_decode named read (Utf8.decode_encode _)]
    exact readEntries_fileText h.limit written

theorem isEntry_of_entry? {line : WideText} {s : String}
    (added : h.entry? line = some (.ofString s)) : IsEntry s := by
  unfold entry? at added
  dsimp only at added
  split at added
  · cases added
  · next kept =>
    have filled : line.trim.points ≠ [] := by
      intro empty
      exact kept (by simp [EntryText.points, EntryText.trim, empty])
    exact isEntry_of_trim filled (Option.some_inj.mp added)

/-- Appending a line keeps this, whether or not it adds an entry. -/
theorem Kept.record (kept : Kept h t full) (line : WideText) :
    Kept (h.record t line).1 (h.record t line).2 full ∧
      (h.record t line).1.limit = h.limit := by
  unfold HistoryOf.record
  cases added : h.entry? line with
  | none => exact ⟨kept, rfl⟩
  | some text =>
    obtain ⟨path, limit, entries⟩ := append_eq added
    dsimp only
    refine ⟨kept_save (path.trans kept.path) kept.named ?_ ?_ kept.writable, limit⟩
    · rw [entries]
      intro s member
      rcases List.mem_append.mp (mem_lastOf member) with earlier | last
      · exact kept.entries s earlier
      · rw [← List.mem_singleton.mp last] at added
        exact isEntry_of_entry? added
    · rw [entries, limit]
      exact length_lastOf _ _

/-- Appends lines one after the other, also after a fault. -/
def recordAll (h : HistoryOf WideText) (t : Tree) : List WideText → HistoryOf WideText × Tree
  | [] => (h, t)
  | line :: lines => recordAll (h.record t line).1 (h.record t line).2 lines

theorem Kept.recordAll (kept : Kept h t full) (lines : List WideText) :
    Kept (recordAll h t lines).1 (recordAll h t lines).2 full ∧
      (recordAll h t lines).1.limit = h.limit := by
  induction lines generalizing h t with
  | nil => exact ⟨kept, rfl⟩
  | cons line lines ih =>
    obtain ⟨next, same⟩ := kept.record line
    obtain ⟨last, still⟩ := ih next
    rw [History.recordAll]
    exact ⟨last, still.trans same⟩

/-- What an opened history holds comes from its file. -/
theorem kept_openAt {homes : Homes} {path : String} {limit : Int}
    (opened : openAt t homes (some path) limit = .ok h) (file : h.path = some full)
    (writable : t.Keeps full) : Kept h t full ∧ h.limit = limitOf limit := by
  obtain ⟨given, expands, named⟩ := of_openAt opened file
  rw [openAt_eq given expands named] at opened
  cases opened
  have held : (ofText (some full) limit (t.readText full).toOption : HistoryOf WideText).entries =
      (reread (limitOf limit) t full).map .ofString := rfl
  refine ⟨⟨rfl, named, ?_, ?_, ?_, writable⟩, rfl⟩
  · intro s member
    obtain ⟨e, read, same⟩ := List.mem_map.mp (held ▸ member)
    rw [← WideText.ofString_injective same]
    exact (mem_reread read).1
  · rw [held, List.length_map]
    exact length_reread (limitOf limit) t full
  · rw [strings?_eq_some.mpr held, Option.getD_some]
    exact (cutAgain_of_unbroken (length_reread _ t full)
      (fun e member => (mem_reread member).1) fun e member => (mem_reread member).2).symm

/-- A history whose file can be written is opened again as its entries are when they are cut
wherever a line ends, and is as it was left where a line ends inside none of them, and only then. If
an entry has a surrogate, nothing is found. -/
theorem reopened {homes : Homes} {path : String} {limit : Int}
    (opened : openAt t homes (some path) limit = .ok h) (file : h.path = some full)
    (writable : t.Keeps full) (lines : List WideText) :
    let left := recordAll h t lines
    ∃ again : HistoryOf WideText, openAt left.2 homes (some path) limit = .ok again ∧
      (again.entries = left.1.entries ↔
        (strings? left.1.entries).isSome ∧ ∀ e ∈ left.1.entries, ¬ BreaksInside e) ∧
      (∀ entries, strings? left.1.entries = some entries →
        again.entries = (lastOf (limitOf limit) (((entries.flatMap pieces).filter
          fun p => !isAllBlank p).map trimEnd)).map WideText.ofString) ∧
      (strings? left.1.entries = none → again.entries = []) := by
  intro left
  obtain ⟨start, limited⟩ := kept_openAt opened file writable
  obtain ⟨kept, same⟩ := start.recordAll lines
  obtain ⟨given, expands, named⟩ := of_openAt opened file
  have again : reread (limitOf limit) left.2 full =
      cutAgain (limitOf limit) ((strings? left.1.entries).getD []) := by
    rw [← limited, ← same]
    exact kept.again
  refine ⟨_, openAt_eq given expands named _ limit, ?_, ?_, ?_⟩
  · have cut := again_eq_iff (limited ▸ same ▸ kept.few) kept.entries
    rwa [← again] at cut
  · intro entries strings
    rw [strings] at again
    exact congrArg (List.map WideText.ofString) again
  · intro none_
    rw [none_, Option.getD_none, cutAgain_nil] at again
    exact congrArg (List.map WideText.ofString) again

/-- With an entry of two lines the file holds one line more than the history had entries, and the
oldest of them is not read. -/
theorem reopened_two_lines :
    let t : Tree := { nodes := [(["log"], .file [0x61, 0x0A, 0x0A, 0x62, 0x0D, 0x0A])] }
    let homes : Homes := { own := "/" }
    let left (h : HistoryOf WideText) := recordAll h t [.ofString "if c:\n    d", .ofString " "]
    ∃ h again, openAt t homes (some "log") 3 = .ok h ∧ h.path = some "log" ∧ t.Keeps "log" ∧
      (left h).1.entries = ["a", "b", "if c:\n    d"].map WideText.ofString ∧
      openAt (left h).2 homes (some "log") 3 = .ok again ∧
      again.entries = ["b", "if c:", "    d"].map WideText.ofString := by
  intro t homes left
  have expands : Path.expandPlain? homes "log" = some "log" := by decide +kernel
  let h : HistoryOf WideText := ofText (some "log") 3 (t.readText "log").toOption
  have opened : openAt t homes (some "log") 3 = .ok h :=
    openAt_eq (by decide) expands (by decide +kernel) t 3
  have writable : t.Keeps "log" := ⟨t, ["log"], by rfl, by rfl, .inr ⟨_, rfl⟩⟩
  obtain ⟨again, reopens, -, cut, -⟩ := reopened opened rfl writable
    [.ofString "if c:\n    d", .ofString " "]
  have entries : (left h).1.entries = ["a", "b", "if c:\n    d"].map WideText.ofString := by
    decide +kernel
  refine ⟨h, again, opened, rfl, writable, entries, reopens, ?_⟩
  rw [cut _ (strings?_eq_some.mpr entries)]
  decide +kernel

/-- No line ends in an entry with a surrogate, and yet it is not found again: its file was emptied
before the fault. -/
theorem surrogate_entry_lost :
    let t : Tree := { nodes := [(["log"], .file (Utf8.encode "a\n"))] }
    let homes : Homes := { own := "/" }
    let line : WideText := ⟨[.char 'b', .surrogate 0x4FF]⟩
    ∃ h again : HistoryOf WideText, openAt t homes (some "log") 10 = .ok h ∧
      h.path = some "log" ∧ t.Keeps "log" ∧
      h.recordFault? t line = some { position := 3, surrogates := [0x4FF] } ∧
      (recordAll h t [line]).1.entries = [.ofString "a", line] ∧
      (∀ e ∈ (recordAll h t [line]).1.entries, ¬ BreaksInside e) ∧
      openAt (recordAll h t [line]).2 homes (some "log") 10 = .ok again ∧
      again.entries = [] := by
  intro t homes line
  have expands : Path.expandPlain? homes "log" = some "log" := by decide +kernel
  have opens (t : Tree) := openAt_eq (α := WideText) (by decide) expands (by decide +kernel) t 10
  have writable : t.Keeps "log" := ⟨t, ["log"], by rfl, by rfl, .inr ⟨_, rfl⟩⟩
  let h : HistoryOf WideText := ofText (some "log") 10 (t.readText "log").toOption
  let u := (recordAll h t [line]).2
  have fault : h.recordFault? t line = some { position := 3, surrogates := [0x4FF] } := by
    decide +kernel
  have entries : (recordAll h t [line]).1.entries = [.ofString "a", line] := by decide +kernel
  have unbroken : ∀ e ∈ [.ofString "a", line], ∀ c ∈ lineEnds, .char c ∉ e.points := by
    simp [line, lineEnds, WideText.ofString]
  have whole : ∀ e ∈ (recordAll h t [line]).1.entries, ¬ BreaksInside e := by
    rw [entries]
    exact fun e member => not_breaksInside (unbroken e member)
  have emptied : (u.readText "log").toOption = some "" := by decide +kernel
  refine ⟨h, _, opens t, rfl, writable, fault, entries, whole, opens u, ?_⟩
  rw [emptied]
  decide +kernel

end NestShell.History

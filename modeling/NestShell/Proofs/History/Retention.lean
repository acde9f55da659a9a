import NestShell.Proofs.History.Reopening

/-!
# What a history retains

Entries are dropped as lines are appended, and a line counts as repeated by what has not been
dropped. As the newest entry always stays, this comes to the same as dropping what is repeated from
all lines and taking the last of the rest. The file is written anew with the entries, so it loses
what they do not hold: what the limit leaves out, and all of a file that could not be decoded.
-/

namespace NestShell.History

open NestShell.Files NestShell.Text HistoryOf

/-! ## Last elements -/

section Last

variable {α : Type} {m n : Nat} {xs ys : List α} {x : α}

/-- Elements that give way to later ones make no difference afterwards. -/
theorem lastOf_lastOf_append (fewer : m ≤ n) :
    lastOf m (lastOf n xs ++ ys) = lastOf m (xs ++ ys) := by
  have cut : lastOf n xs ++ ys = (xs ++ ys).drop (xs.length - n) := by
    rw [lastOf, List.drop_append_of_le_length (Nat.sub_le ..)]
  rw [cut, lastOf, lastOf, List.drop_drop, List.length_drop, List.length_append]
  congr 1
  omega

theorem lastOf_lastOf (fewer : m ≤ n) : lastOf m (lastOf n xs) = lastOf m xs := by
  simpa using @lastOf_lastOf_append α m n xs [] fewer

theorem lastOf_concat (positive : 0 < n) :
    lastOf n (xs ++ [x]) = lastOf (n - 1) xs ++ [x] := by
  have length : (xs ++ [x]).length - n = xs.length - (n - 1) := by
    rw [List.length_append, List.length_singleton]
    omega
  rw [lastOf, length, List.drop_append_of_le_length (Nat.sub_le ..), lastOf]

theorem getLast?_lastOf (positive : 0 < n) : (lastOf n xs).getLast? = xs.getLast? := by
  rcases List.eq_nil_or_concat xs with rfl | ⟨front, last, rfl⟩
  · rw [lastOf, List.drop_nil]
  · rw [List.concat_eq_append, lastOf_concat positive, List.getLast?_concat, List.getLast?_concat]

end Last

/-! ## One line -/

section Append

variable {h : History} {line : String}

theorem entry?_eq : h.entry? line = if (trim line).isEmpty || h.entries.getLast? == some (trim line)
    then none else some (trim line) := by
  have empty : (EntryText.points (trim line)).isEmpty = (trim line).isEmpty := by
    rw [Bool.eq_iff_iff, String.isEmpty_iff]
    simp [EntryText.points]
  rw [ entry?, ← empty]
  rfl

theorem record_history (t : Tree) : (h.record t line).1 = h.append line := by
  unfold record append
  cases h.entry? line <;> rfl

theorem append_limit : (h.append line).limit = h.limit := by
  unfold append
  cases h.entry? line <;> rfl

theorem append_blank (blank : (trim line).isEmpty = true) : h.append line = h := by
  rw [append, entry?_eq, blank, Bool.true_or, if_pos rfl]

theorem append_repeated (newest : h.entries.getLast? = some (trim line)) : h.append line = h := by
  rw [append, entry?_eq, newest, beq_self_eq_true, Bool.or_true, if_pos rfl]

theorem entry?_new (filled : (trim line).isEmpty = false)
    (new : h.entries.getLast? ≠ some (trim line)) : h.entry? line = some (trim line) := by
  rw [entry?_eq, filled, beq_eq_false_iff_ne.mpr new, Bool.or_false, if_neg Bool.false_ne_true]

/-- Where a line adds an entry, the first one gives way if the history is full. -/
theorem append_new (filled : (trim line).isEmpty = false)
    (new : h.entries.getLast? ≠ some (trim line)) :
    (h.append line).entries = lastOf (h.limit - 1) h.entries ++ [trim line] := by
  rw [append, entry?_new filled new]
  exact lastOf_concat h.limit_pos

/-- A line that is not blank is the newest entry after it was appended. -/
theorem getLast?_append (filled : (trim line).isEmpty = false) :
    (h.append line).entries.getLast? = some (trim line) := by
  by_cases newest : h.entries.getLast? = some (trim line)
  · rw [append_repeated newest, newest]
  · rw [append_new filled newest, List.getLast?_concat]

/-- The entries before a line that adds one. -/
theorem dropLast_append (filled : (trim line).isEmpty = false)
    (new : h.entries.getLast? ≠ some (trim line)) :
    (h.append line).entries.dropLast = h.entries.drop (h.entries.length + 1 - h.limit) := by
  have positive := h.limit_pos
  rw [append_new filled new, List.dropLast_concat, lastOf]
  congr 1
  omega

theorem length_append (few : h.entries.length ≤ h.limit) :
    (h.append line).entries.length ≤ h.limit := by
  unfold append
  cases h.entry? line with
  | none => exact few
  | some text => exact length_lastOf _ _

end Append

/-! ## Many lines -/

/-- The texts for which lines are kept. -/
def keepable (lines : List String) : List String :=
  (lines.map trim).filter fun text => !text.isEmpty

/-- The texts that differ from the one directly before them. -/
def changesAfter (before : Option String) (texts : List String) : List String :=
  ((texts.zip (before :: texts.map some)).filter fun e => e.2 != some e.1).map Prod.fst

theorem changesAfter_cons (before : Option String) (text : String) (texts : List String) :
    changesAfter before (text :: texts) =
      (if before = some text then [] else [text]) ++ changesAfter (some text) texts := by
  unfold changesAfter
  rw [List.map_cons, List.zip_cons_cons]
  split
  · next same => rw [List.filter_cons_of_neg (by simp [same]), List.nil_append]
  · next other =>
    rw [List.filter_cons_of_pos (by simpa using other), List.map_cons, List.singleton_append]

/-- Appends lines one after the other, each with the files that are there by then. -/
def recordEach (h : History) : List (Tree × String) → History
  | [] => h
  | (t, line) :: appends => recordEach (h.record t line).1 appends

/-- What counts as repeated does not depend on the entries that had to give way. -/
theorem recordEach_entries {h : History} (few : h.entries.length ≤ h.limit)
    (appends : List (Tree × String)) :
    (h.recordEach appends).entries = lastOf h.limit
      (h.entries ++ changesAfter h.entries.getLast? (keepable (appends.map Prod.snd))) := by
  induction appends generalizing h with
  | nil =>
    rw [recordEach, show keepable ([].map Prod.snd) = [] from rfl,
      show changesAfter _ [] = [] from rfl, List.append_nil, lastOf_eq few]
  | cons first appends ih =>
    obtain ⟨t, line⟩ := first
    have still : (h.append line).entries.length ≤ (h.append line).limit := by
      rw [append_limit]
      exact length_append few
    rw [recordEach, record_history, ih still, append_limit, List.map_cons]
    dsimp only
    unfold keepable
    rw [List.map_cons]
    by_cases blank : (trim line).isEmpty = true
    · rw [List.filter_cons_of_neg (by simp [blank]), append_blank blank]
    · have filled : (trim line).isEmpty = false := by simpa using blank
      rw [List.filter_cons_of_pos (by simp [filled]), changesAfter_cons, getLast?_append filled]
      by_cases newest : h.entries.getLast? = some (trim line)
      · rw [append_repeated newest, if_pos newest, List.nil_append]
      · rw [append_new filled newest, ← lastOf_concat h.limit_pos,
          lastOf_lastOf_append (Nat.le_refl _), if_neg newest, List.append_assoc]

/-! ## Histories that were opened -/

section Opened

variable {t : Tree} {homes : Homes} {h : History} {limit : Int} {line : String}

theorem length_ofText (path : Option String) (limit : Int) (text : Option String) :
    (ofText path limit text : History).entries.length ≤ limitOf limit := by
  unfold ofText
  rw [List.length_map]
  cases text with
  | none => exact Nat.zero_le _
  | some text => exact length_lastOf _ _

theorem exists_ofText {path : Option String} (opened : openAt t homes path limit = .ok h) :
    ∃ full text, h = ofText full limit text := by
  unfold openAt at opened
  split at opened
  · cases opened
    exact ⟨none, none, rfl⟩
  · split at opened
    · cases opened
    · next full _ =>
      split at opened
      · next text _ =>
        cases opened
        exact ⟨some full, some text, rfl⟩
      · cases opened
      · cases opened
        exact ⟨some full, none, rfl⟩

/-- The entries are the last of those that were read and of the lines appended since, without blank
ones and without those that repeat what is directly before them. -/
theorem last_entries_retained {path : Option String} (opened : openAt t homes path limit = .ok h)
    (appends : List (Tree × String)) :
    (h.recordEach appends).entries = lastOf (max 1 limit).toNat
        (h.entries ++ changesAfter h.entries.getLast? (keepable (appends.map Prod.snd))) ∧
      (h.recordEach appends).entries.length ≤ max 1 limit := by
  obtain ⟨full, text, rfl⟩ := exists_ofText opened
  have entries := recordEach_entries (h := ofText full limit text) (length_ofText ..) appends
  have limited : (ofText full limit text : History).limit = (max 1 limit).toNat := by
    change limitOf limit = _
    unfold limitOf
    omega
  rw [limited] at entries
  refine ⟨entries, ?_⟩
  have few := length_lastOf (max 1 limit).toNat ((ofText full limit text).entries ++
    changesAfter (ofText full limit text).entries.getLast? (keepable (appends.map Prod.snd)))
  rw [entries]
  omega

/-- A repeated line and a blank one, with a directory in the file's place for some of them. -/
theorem unwritable_entries_retained :
    let t : Tree := { nodes := [(["log"], .file [0x78, 0x0A, 0x79, 0x0A, 0x79, 0x0A])] }
    let u : Tree := { nodes := [(["log"], .directory)] }
    let homes : Homes := { own := "/" }
    ∃ h : History, openAt t homes (some "log") 3 = .ok h ∧ h.entries = ["x", "y", "y"] ∧
      ((h.record u "z").2.readText "log").toOption = none ∧
      (h.recordEach [(u, " y "), (u, "z"), (t, "\t"), (u, "z"), (t, "y")]).entries =
        ["y", "z", "y"] := by
  intro t u homes
  have expands : Path.expandPlain? homes "log" = some "log" := by decide +kernel
  have opened := openAt_eq (α := String) (by decide) expands (by decide +kernel) t 3
  have retained := last_entries_retained opened
    [(u, " y "), (u, "z"), (t, "\t"), (u, "z"), (t, "y")]
  refine ⟨_, opened, by decide +kernel, by decide +kernel, retained.1.trans ?_⟩
  decide +kernel

/-! ## The file after one line -/

/-- The lines that a text has entries for. -/
def filledLines (s : String) : List String := ((lines s).filter fun l => !isAllBlank l).map trimEnd

theorem readEntries_eq (n : Nat) (s : String) :
    readEntries n (universalNewlines s) = lastOf n (filledLines s) := by
  rw [readEntries, lines_universalNewlines, filledLines]

theorem record_repeated (newest : h.entries.getLast? = some (trim line)) :
    h.record t line = (h, t) := by
  rw [record, entry?_eq, newest, beq_self_eq_true, Bool.or_true, if_pos rfl]

theorem record_new {full : String} (path : h.path = some full) (writable : t.Keeps full)
    (filled : (trim line).isEmpty = false) (new : h.entries.getLast? ≠ some (trim line)) :
    (h.record t line).2.read full = .ok (Utf8.encode
      ("\n".intercalate (lastOf (h.limit - 1) h.entries ++ [trim line]) ++ "\n")) := by
  have added := entry?_new filled new
  have kept : (h.append line).path = some full := (append_eq added).1.trans path
  rw [record, added, ← append_new filled new]
  have saved := (save_keeps kept writable).2.1
  rwa [strings?_eq] at saved

/-- The first line that is appended keeps the entries of a file that could be decoded, as far as the
limit leaves room for them. A file that could not be decoded holds that line only. -/
theorem file_after_append {path full line : String} {bytes : List UInt8}
    (opened : openAt t homes (some path) limit = .ok h) (file : h.path = some full)
    (writable : t.Keeps full) (held : t.read full = .ok bytes)
    (filled : (trim line).isEmpty = false) :
    let after := (h.record t line).2
    (∀ s, Utf8.decode bytes = .ok s →
      ((filledLines s).getLast? = some (trim line) → after.read full = .ok bytes) ∧
      ((filledLines s).getLast? ≠ some (trim line) → after.read full = .ok (Utf8.encode
        ("\n".intercalate (lastOf (limitOf limit - 1) (filledLines s) ++ [trim line]) ++ "\n")))) ∧
    (∀ f, Utf8.decode bytes = .error f →
      after.read full = .ok (Utf8.encode (trim line ++ "\n"))) := by
  intro after
  obtain ⟨given, expands, named⟩ := of_openAt opened file
  rw [openAt_eq given expands named] at opened
  have positive := limitOf_pos limit
  constructor
  · intro s decodes
    rw [Tree.readText_of_decode named held decodes] at opened
    have entries : h.entries = lastOf (limitOf limit) (filledLines s) := by
      cases opened
      exact (List.map_id _).trans (readEntries_eq _ s)
    have last : h.entries.getLast? = (filledLines s).getLast? := by
      rw [entries, getLast?_lastOf positive]
    have limited : h.limit = limitOf limit := by
      cases opened
      rfl
    constructor
    · intro newest
      rwa [show after = t from congrArg Prod.snd (record_repeated (last.trans newest))]
    · intro new
      rw [record_new file writable filled (last ▸ new), limited, entries,
        lastOf_lastOf (Nat.sub_le ..)]
  · intro f faulty
    rw [Tree.readText_of_fault named held faulty] at opened
    have none_ : h.entries = [] := by
      cases opened
      rfl
    rw [record_new file writable filled (by simp [none_]), none_, lastOf_eq (Nat.zero_le _),
      List.nil_append, String.intercalate_singleton]

/-- Blanks at the end of a line are not kept, and the first line has to give way. -/
theorem file_after_full_history :
    let t : Tree := { nodes := [(["log"], .file (Utf8.encode "x\ny \n\nz\n"))] }
    let homes : Homes := { own := "/" }
    ∃ h : History, openAt t homes (some "log") 3 = .ok h ∧ t.Keeps "log" ∧
      (h.record t " w").2.read "log" = .ok (Utf8.encode "y\nz\nw\n") := by
  intro t homes
  have expands : Path.expandPlain? homes "log" = some "log" := by decide +kernel
  have opened := openAt_eq (α := String) (by decide) expands (by decide +kernel) t 3
  have writable : t.Keeps "log" := ⟨t, ["log"], by rfl, by rfl, .inr ⟨_, rfl⟩⟩
  have filled : (trim " w").isEmpty = false := by decide +kernel
  have after := file_after_append opened rfl writable (by rfl) filled
  refine ⟨_, opened, writable, ?_⟩
  rw [(after.1 _ (Utf8.decode_encode _)).2 (by decide +kernel)]
  decide +kernel

/-- A line that can be decoded is lost with one that cannot. -/
theorem undecodable_lines_lost :
    let t : Tree := { nodes := [(["log"], .file (Utf8.encode "a\n" ++ [0xFF, 0x0A]))] }
    let homes : Homes := { own := "/" }
    ∃ h : History, openAt t homes (some "log") 10 = .ok h ∧ h.path = some "log" ∧ t.Keeps "log" ∧
      (h.record t "b").2.read "log" = .ok (Utf8.encode "b\n") := by
  intro t homes
  have expands : Path.expandPlain? homes "log" = some "log" := by decide +kernel
  have opened := openAt_eq (α := String) (by decide) expands (by decide +kernel) t 10
  have writable : t.Keeps "log" := ⟨t, ["log"], by rfl, by rfl, .inr ⟨_, rfl⟩⟩
  refine ⟨_, opened, rfl, writable, ?_⟩
  rw [record_new rfl writable (by decide +kernel) (by decide +kernel)]
  decide +kernel

end Opened

end NestShell.History

import NestShell.Proofs.Shell.Failure
import NestShell.Proofs.Shell.Fresh
import NestShell.Proofs.Text.LastWord
import NestShell.Shell.Completion

/-!
# Accepting completions

A completion that is accepted takes the place of as many characters before the cursor as the last
word has when it is read. Where the word is written as it is read, these characters are the word,
and accepting the completion leaves the other words alone. Where it is written with quotes or
backslashes they are more, and what is left of them is put together with the completion.
-/

namespace NestShell.Shell

open NestShell.Code NestShell.Text NestShell.Text.Words

namespace Completion

/-- The text that accepting a completion makes of the text before the cursor. -/
def accept (c : Completion) (text : String) : String :=
  String.ofList (text.toList.take (text.length - c.replaced)) ++ c.text

/-! ## Tokens -/

/-- The characters of the tokens of a text. -/
def tokenChars (cs : List Char) : List (List Char) :=
  match scan .gap [] cs with
  | .ok ws => if cs.getLast?.any isBlank then ws ++ [[]] else ws
  | .error _ =>
    let ws := piecesFrom isBlank [] cs
    if [' '].isSuffixOf cs || ['\t'].isSuffixOf cs then ws ++ [[]] else ws

theorem tokens_eq (text : String) : tokens text = (tokenChars text.toList).map String.ofList := by
  unfold tokens tokenChars split? Text.words endsWith
  cases scan .gap [] text.toList with
  | ok ws =>
    change (if _ then _ else _) = _
    dsimp only
    split <;> simp
  | error f =>
    change (if _ then _ else _) = _
    dsimp only
    split <;> simp_all

section Tokens

variable {cs front : List Char} {ws : List (List Char)} {f : Words.Fault}

theorem tokenChars_ink (read : scan .gap [] cs = .ok ws)
    (ink : ∀ b ∈ cs.getLast?, isBlank b = false) : tokenChars cs = ws := by
  unfold tokenChars
  rw [read]
  dsimp only
  rw [if_neg]
  cases last : cs.getLast? with
  | none => simp
  | some b => simpa using ink b last

theorem tokenChars_blank {b : Char} (read : scan .gap [] (front ++ [b]) = .ok ws)
    (blank : isBlank b = true) : tokenChars (front ++ [b]) = ws ++ [[]] := by
  unfold tokenChars
  rw [read]
  dsimp only
  rw [if_pos]
  simpa using blank

theorem tokenChars_open (fault : scan .gap [] cs = .error f) :
    tokenChars cs = piecesFrom isBlank [] cs ++
      if [' '].isSuffixOf cs || ['\t'].isSuffixOf cs then [[]] else [] := by
  unfold tokenChars
  rw [fault]
  dsimp only
  split <;> simp

theorem tokenChars_open_ink (fault : scan .gap [] cs = .error f)
    (ink : ∀ b ∈ cs.getLast?, isBlank b = false) :
    tokenChars cs = piecesFrom isBlank [] cs := by
  have unblank (b : Char) (blank : isBlank b = true) : ¬ [b] <:+ cs := by
    rintro ⟨rest, rfl⟩
    exact absurd (blank.symm.trans (ink b (by simp))) (by simp)
  have closed : ¬ ([' '].isSuffixOf cs || ['\t'].isSuffixOf cs) = true := by
    simpa [List.isSuffixOf_iff_suffix] using ⟨unblank ' ' (by decide), unblank '\t' (by decide)⟩
  rw [tokenChars_open fault, if_neg closed, List.append_nil]

theorem ink_at_end {more : List Char} (ink : ∀ c ∈ more, isBlank c = false) (filled : more ≠ [])
    (front : List Char) : ∀ b ∈ (front ++ more).getLast?, isBlank b = false := by
  rw [List.getLast?_append_of_ne_nil _ filled]
  exact fun b member => ink b (List.mem_of_mem_getLast? member)

/-- Characters that are clear are the last token of a text, or the end of it. -/
theorem tokenChars_goes_on (front : List Char) : ∃ before start,
    ∀ cs, Clear cs → cs ≠ [] → tokenChars (front ++ cs) = before ++ [start ++ cs] := by
  obtain ⟨done, n, open_, leads⟩ := exists_leads (.inl .gap) front
  rcases leads.stands (.inl .gap) with outside | inside
  · refine ⟨done, open_.reverse, fun cs clear filled => ?_⟩
    exact tokenChars_ink (scan_front_unquoted leads outside clear filled)
      (ink_at_end clear.ink filled front)
  · obtain ⟨before, start, goesOn⟩ := piecesFrom_goes_on (p := isBlank) front []
    refine ⟨before, start, fun cs clear filled => ?_⟩
    obtain ⟨f, fault⟩ := scan_front_quoted leads inside clear
    rw [tokenChars_open_ink fault (ink_at_end clear.ink filled front)]
    exact goesOn cs clear.ink filled

/-- Where a line stays open, clear characters are a token of their own only behind a blank. -/
theorem blank_of_goes_on {more : List Char} {before : List (List Char)} {b : Char}
    (fault : scan .gap [] (front ++ b :: more) = .error f) (clear : Clear more)
    (last : tokenChars (front ++ b :: more) = before ++ [more]) :
    isBlank b = true := by
  by_contra blank
  have ink : ∀ c ∈ b :: more, isBlank c = false := by
    rintro c (_ | ⟨_, member⟩)
    · simpa using blank
    · exact clear.ink c member
  have filled' : b :: more ≠ [] := List.cons_ne_nil b more
  obtain ⟨before', start, goesOn⟩ := piecesFrom_goes_on (p := isBlank) front []
  rw [tokenChars_open_ink fault (ink_at_end ink filled' front), goesOn _ ink filled'] at last
  have same : start ++ b :: more = more := by simpa using (List.append_inj' last rfl).2
  have longer := congrArg List.length same
  simp only [List.length_append, List.length_cons] at longer
  omega

end Tokens

/-! ## The last word -/

/-- The last word stands at the end of the text as it is read. A blank there, behind which a new
word is to begin, separates words; where the text can be split, it can be split without the blank,
which so is not escaped. -/
structure AsTyped (cs word : List Char) : Prop where
  ends : word <:+ cs
  separates : ∀ front b, cs = front ++ [b] → isBlank b = true → isSeparator b = true ∧
    ∀ ws, scan .gap [] cs = .ok ws → ∃ before, scan .gap [] front = .ok before

section LastWord

variable {cs word more : List Char}

theorem tokenChars_begins_blank {front : List Char} {b : Char} (blank : isBlank b = true)
    (typed : AsTyped (front ++ [b]) []) (last : (tokenChars (front ++ [b])).getLastD [] = [])
    (clear : Clear more) (filled : more ≠ []) :
    tokenChars (front ++ [b] ++ more) = (tokenChars (front ++ [b])).dropLast ++ [more] := by
  obtain ⟨separates, unescaped⟩ := typed.separates front b rfl blank
  have ends := ink_at_end clear.ink filled (front ++ [b])
  have ended {done : List (List Char)} (leads : Leads .gap [] (front ++ [b]) done .gap []) :
      tokenChars (front ++ [b] ++ more) = (tokenChars (front ++ [b])).dropLast ++ [more] := by
    rw [tokenChars_ink (scan_front_unquoted leads .gap clear filled) ends,
      tokenChars_blank (leads.scan_eq_ok.mpr (.inl ⟨rfl, rfl⟩)) blank, List.dropLast_concat]
    rfl
  -- Between quotes the blank is one of those that end a token in a text that cannot be split.
  have stays {done : List (List Char)} {n : Mode} {open_ : List Char}
      (leads : Leads .gap [] (front ++ [b]) done n open_) (quoted : Quoted n) :
      tokenChars (front ++ [b] ++ more) = (tokenChars (front ++ [b])).dropLast ++ [more] := by
    obtain ⟨f, fault⟩ := leads.fault_of_quoted quoted
    obtain ⟨f', fault'⟩ := scan_front_quoted leads quoted clear
    have runs : piecesFrom isBlank [] (front ++ [b] ++ more) =
        piecesFrom isBlank [] (front ++ [b]) ++ [more] := by
      rw [List.append_assoc, List.singleton_append, piecesFrom_separated blank,
        piecesFrom_separated blank, piecesFrom_inside clear.ink filled, piecesFrom]
      simp
    rw [tokenChars_open fault] at last ⊢
    rw [tokenChars_open_ink fault' ends, runs]
    split at last
    · next spaced => rw [if_pos spaced, List.dropLast_concat]
    · rw [List.append_nil] at last
      have blank := (piecesFrom_eq_nil (piecesFrom_of_last last)).2
      cases (leads.unmarked (unmarked_of_blank blank)).1 .gap <;> cases quoted
  obtain ⟨done, n, open_, leads⟩ := exists_leads (.inl .gap) front
  rcases leads.stands (.inl .gap) with (_ | _ | _) | (⟨quote⟩ | _)
  · exact ended (leads.next (.skips separates))
  · exact ended (leads.next (.ends open_ separates))
  · have read := (leads.next (.takes open_ b)).scan_eq_ok.mpr (.inr ⟨rfl, rfl⟩)
    obtain ⟨before, whole⟩ := unescaped _ read
    cases whole.symm.trans leads.fault_of_escape
  · next q =>
    have other : b ≠ q := by
      rintro rfl
      exact absurd (isBlank_of_isQuote quote) (by simp [blank])
    have plain : ¬ (b = '\\' ∧ q = '\x22') := by
      rintro ⟨rfl, -⟩
      exact absurd blank (by decide)
    exact stays (leads.next (.readsInside open_ quote other plain)) (.quote quote)
  · exact stays (leads.next (.takesInside open_ b)) (.quote isQuote_mark)

theorem tokenChars_begins_ink {front : List Char} {b : Char} (ink : isBlank b = false)
    (last : (tokenChars (front ++ [b])).getLastD [] = []) (clear : Clear more)
    (filled : more ≠ []) :
    tokenChars (front ++ [b] ++ more) = (tokenChars (front ++ [b])).dropLast ++ [more] := by
  have ends : ∀ c ∈ (front ++ [b]).getLast?, isBlank c = false := by simpa using ink
  obtain ⟨done, n, open_, leads⟩ := exists_leads (.inl .gap) (front ++ [b])
  have whole {f : Words.Fault} (fault : scan .gap [] (front ++ [b]) = .error f) : False := by
    rw [tokenChars_open_ink fault ends] at last
    have blank := (piecesFrom_eq_nil (piecesFrom_of_last last)).2 b (by simp)
    exact absurd (blank.symm.trans ink) (by simp)
  rcases leads.stands (.inl .gap) with outside | inside
  · have read := scan_front_unquoted leads outside clear filled
    rw [tokenChars_ink read (ink_at_end clear.ink filled _)]
    cases outside with
    | gap =>
      have blank := isBlank_of_isSeparator leads.separates.1
      exact absurd (blank.symm.trans ink) (by simp)
    | word =>
      have here := tokenChars_ink (leads.scan_eq_ok.mpr (.inr ⟨rfl, rfl⟩)) ends
      rw [here, List.getLastD_concat] at last
      rw [here, last, List.dropLast_concat, List.nil_append]
    | escape => exact (whole leads.fault_of_escape).elim
  · obtain ⟨f, fault⟩ := leads.fault_of_quoted inside
    exact (whole fault).elim

/-- Where no word has begun, clear characters begin one. -/
theorem tokenChars_begins (typed : AsTyped cs []) (last : (tokenChars cs).getLastD [] = [])
    (clear : Clear more) (filled : more ≠ []) :
    tokenChars (cs ++ more) = (tokenChars cs).dropLast ++ [more] := by
  rcases List.eq_nil_or_concat cs with rfl | ⟨front, b, rfl⟩
  · exact tokenChars_ink (scan_clear_unquoted .gap clear filled) (ink_at_end clear.ink filled [])
  · rw [List.concat_eq_append] at typed last ⊢
    by_cases blank : isBlank b = true
    · exact tokenChars_begins_blank blank typed last clear filled
    · exact tokenChars_begins_ink (by simpa using blank) last clear filled

/-- A word that stands at the end as it is read makes room for other clear characters. -/
theorem tokenChars_accepted (typed : AsTyped cs word) (clear : Clear word)
    (last : (tokenChars cs).getLastD [] = word) (clear' : Clear more) (filled : more ≠ []) :
    tokenChars (cs.take (cs.length - word.length) ++ more) =
      (tokenChars cs).dropLast ++ [more] := by
  by_cases begun : word = []
  · subst begun
    rw [List.length_nil, Nat.sub_zero, List.take_length]
    exact tokenChars_begins typed last clear' filled
  · obtain ⟨front, rfl⟩ := typed.ends
    obtain ⟨before, start, goesOn⟩ := tokenChars_goes_on front
    have here : tokenChars (front ++ word) = before ++ [start ++ word] := goesOn word clear begun
    rw [here, List.getLastD_concat] at last
    have none_ : start = [] := by simpa using last
    rw [List.length_append, Nat.add_sub_cancel, List.take_left, here, goesOn more clear' filled,
      none_, List.dropLast_concat, List.nil_append]

/-- The tokens are not longer than the text. -/
theorem length_tokenChars (cs : List Char) : (tokenChars cs).flatten.length ≤ cs.length := by
  obtain ⟨done, n, open_, leads⟩ := exists_leads (.inl .gap) cs
  have bound := leads.held_le
  cases read : scan .gap [] cs with
  | ok ws =>
    have words : (tokenChars cs).flatten = ws.flatten := by
      unfold tokenChars
      rw [read]
      dsimp only
      split <;> simp
    rw [words]
    rcases leads.scan_eq_ok.mp read with ⟨rfl, rfl⟩ | ⟨rfl, rfl⟩
    · simp only [held] at bound
      simpa using Nat.le_of_add_right_le bound
    · simpa [held] using bound
  | error f =>
    rw [tokenChars_open read]
    have runs := length_piecesFrom (p := isBlank) cs []
    split <;> simpa using runs

theorem length_last_le (cs : List Char) : ((tokenChars cs).getLastD []).length ≤ cs.length := by
  have bound := length_tokenChars cs
  rcases List.eq_nil_or_concat (tokenChars cs) with none_ | ⟨before, word, same⟩
  · simp [none_]
  · rw [same] at bound ⊢
    simp at bound ⊢
    omega

/-- Where a completion has become a token behind all words of the text, the last character of the
text separates words. -/
theorem separates_of_accepted {ws : List (List Char)} {front : List Char} {b : Char}
    (read : scan .gap [] (front ++ [b]) = .ok ws) (clear : Clear more) (filled : more ≠ [])
    (same : tokenChars (front ++ [b] ++ more) = ws ++ [more]) :
    isSeparator b = true ∧ ∃ before, scan .gap [] front = .ok before := by
  obtain ⟨done, n, open_, leads⟩ := exists_leads (.inl .gap) (front ++ [b])
  rcases leads.scan_eq_ok.mp read with ⟨rfl, rfl⟩ | ⟨rfl, rfl⟩
  · exact leads.separates
  · have ends := ink_at_end clear.ink filled (front ++ [b])
    rw [tokenChars_ink (scan_front_unquoted leads (.word open_) clear filled) ends] at same
    have fewer := congrArg List.length same
    simp at fewer

/-- Where a completion has become a token in place of the last word, and the text in front of it
ends outside quotes, the word stands at the end of the text. -/
theorem word_of_accepted_outside {ws done : List (List Char)} {front tail open_ : List Char}
    {n : Mode} (leads : Leads .gap [] front done n open_) (outside : Unquoted n open_)
    (read : scan .gap [] (front ++ tail) = .ok (ws ++ [word]))
    (long : tail.length = word.length) (clear : Clear more) (filled : more ≠ [])
    (same : tokenChars (front ++ more) = ws ++ [more]) : tail = word := by
  have ends := ink_at_end clear.ink filled front
  rw [tokenChars_ink (scan_front_unquoted leads outside clear filled) ends] at same
  obtain ⟨rfl, open_'⟩ := List.append_inj' same rfl
  obtain rfl : open_ = [] := by simpa using open_'
  have nothing : held n [] = 0 := by cases outside <;> rfl
  obtain ⟨later, k, open', leads'⟩ := exists_leads (.inl outside) tail
  have bound := leads'.held_le
  rw [nothing] at bound
  rw [scan_leads leads] at read
  cases rest : scan n [] tail with
  | error f =>
    rw [rest] at read
    cases read
  | ok vs =>
    rw [rest] at read
    obtain rfl : vs = [word] := List.append_cancel_left (Except.ok.inj read)
    rcases leads'.scan_eq_ok.mp rest with ⟨rfl, rfl⟩ | ⟨rfl, whole⟩
    · simp only [List.flatten_singleton, held] at bound
      have all : [word].flatten.length + held .gap open' = held n [] + tail.length := by
        rw [nothing, List.flatten_singleton]
        simp only [held]
        omega
      cases (leads'.kept outside all).2.1
    · have alone : [] ++ [word] = later ++ [open'.reverse] := whole
      obtain ⟨rfl, here⟩ := List.append_inj' alone rfl
      obtain rfl : word = open'.reverse := by simpa using here
      have all : ([] : List (List Char)).flatten.length + held .word open' =
          held n [] + tail.length := by
        rw [nothing, long]
        simp [held]
      exact (leads'.kept outside all).2.2.symm

/-- Where the text in front of the completion ends between quotes, a word without blanks that is as
long as what it replaces cannot have been the last one. -/
theorem not_accepted_quoted {ws done : List (List Char)} {front tail open_ : List Char}
    {n : Mode} (leads : Leads .gap [] front done n open_) (quoted : Quoted n)
    (read : scan .gap [] (front ++ tail) = .ok (ws ++ [word])) (clear : Clear word)
    (long : tail.length = word.length) (clear' : Clear more)
    (same : tokenChars (front ++ more) = ws ++ [more]) : False := by
  obtain ⟨f, fault⟩ := leads.fault_of_quoted quoted
  obtain ⟨f', fault'⟩ := scan_front_quoted leads quoted clear'
  rcases List.eq_nil_or_concat front with rfl | ⟨front, b, rfl⟩
  · cases fault
  rw [List.concat_eq_append] at leads fault' same read
  have line : front ++ [b] ++ more = front ++ b :: more := by simp
  rw [line] at fault' same
  have blank : isBlank b = true := blank_of_goes_on fault' clear' same
  have member : b ∈ open_ := leads.blank_inside quoted blank
  have missing : b ∉ word := fun member => by simp [clear.ink b member] at blank
  obtain ⟨later, k, open', leads'⟩ := exists_leads (.inr quoted) tail
  rw [scan_leads leads] at read
  cases rest : scan n open_ tail with
  | error f =>
    rw [rest] at read
    cases read
  | ok vs =>
    rw [rest] at read
    have whole : done ++ vs = ws ++ [word] := Except.ok.inj read
    have filled : n ≠ .gap := by
      rintro rfl
      cases quoted
    rcases leads'.opened filled with ⟨goes, rfl, goesOn⟩ | ⟨first, others, rfl, begins, short⟩
    · rcases leads'.scan_eq_ok.mp rest with ⟨rfl, -⟩ | ⟨rfl, rfl⟩
      · exact goes rfl
      · have last : open'.reverse = word := by simpa using (List.append_inj' whole rfl).2
        exact missing (by rw [← last]; simpa using goesOn.subset member)
    · rcases leads'.scan_eq_ok.mp rest with ⟨rfl, rfl⟩ | ⟨rfl, rfl⟩
      · rcases List.eq_nil_or_concat others with rfl | ⟨before, last, rfl⟩
        · have last : first = word := by simpa using (List.append_inj' whole rfl).2
          exact missing (last ▸ begins.subset (by simpa using member))
        · rw [List.concat_eq_append, ← List.cons_append, ← List.append_assoc] at whole
          have last : last = word := by simpa using (List.append_inj' whole rfl).2
          simp [last, long] at short
          omega
      · rw [← List.append_assoc] at whole
        have last : open'.reverse = word := by simpa using (List.append_inj' whole rfl).2
        have same := congrArg List.length last
        simp only [held, List.length_reverse] at short same
        omega

/-- In a text that can be split, a completion has become a token in place of the last word only if
the word is typed as it is read. -/
theorem asTyped_of_accepted {ws : List (List Char)} (read : scan .gap [] cs = .ok ws)
    (clear : Clear word) (last : (tokenChars cs).getLastD [] = word) (clear' : Clear more)
    (filled : more ≠ [])
    (same : tokenChars (cs.take (cs.length - word.length) ++ more) =
      (tokenChars cs).dropLast ++ [more]) : AsTyped cs word := by
  have fits : word.length ≤ cs.length := last ▸ length_last_le cs
  rcases List.eq_nil_or_concat cs with rfl | ⟨front, b, rfl⟩
  · obtain rfl : word = [] := by simpa using fits
    exact ⟨List.suffix_rfl, fun front b none_ => by simp at none_⟩
  rw [List.concat_eq_append] at *
  by_cases blank : isBlank b = true
  · rw [tokenChars_blank read blank] at last same
    obtain rfl : word = [] := by simpa using last.symm
    rw [List.length_nil, Nat.sub_zero, List.take_length, List.dropLast_concat] at same
    refine ⟨List.nil_suffix, fun front' b' same' _ => ?_⟩
    obtain ⟨rfl, rfl⟩ : front = front' ∧ b = b' := by simpa using same'
    obtain ⟨separates, whole⟩ := separates_of_accepted read clear' filled same
    exact ⟨separates, fun _ _ => whole⟩
  · have ink : ∀ d ∈ (front ++ [b]).getLast?, isBlank d = false := by simpa using blank
    refine ⟨?_, fun front' b' same' blank' => ?_⟩
    · rw [tokenChars_ink read ink] at last same
      rcases List.eq_nil_or_concat ws with rfl | ⟨before, final, rfl⟩
      · obtain rfl : word = [] := by simpa using last.symm
        exact List.nil_suffix
      rw [List.concat_eq_append] at last same read
      obtain rfl : final = word := by simpa using last
      rw [List.dropLast_concat] at same
      generalize front ++ [b] = cs at *
      have cut := List.take_append_drop (cs.length - final.length) cs
      have long : (cs.drop (cs.length - final.length)).length = final.length := by
        rw [List.length_drop]
        omega
      rw [← cut] at read
      obtain ⟨done, n, open_, leads⟩ := exists_leads (.inl .gap) (cs.take (cs.length - final.length))
      rcases leads.stands (.inl .gap) with outside | quoted
      · rw [← word_of_accepted_outside leads outside read long clear' filled same]
        exact List.drop_suffix _ _
      · exact (not_accepted_quoted leads quoted read clear long clear' same).elim
    · obtain ⟨-, rfl⟩ : front = front' ∧ b = b' := by simpa using same'
      exact absurd blank' blank

/-- Where a blank ends a text that cannot be split, the place of the last word is not the end of the
text. -/
theorem not_accepted_blank {front run gap : List Char} {f : Words.Fault}
    (fault : scan .gap [] cs = .error f) (parts : LastRun isBlank cs front run gap)
    (clear : Clear run) (filled : run ≠ []) (spaced : gap ≠ []) (clear' : Clear more)
    (filled' : more ≠ [])
    (same : tokenChars (cs.take (cs.length - run.length) ++ more) =
      piecesFrom isBlank [] front ++ [more]) : False := by
  obtain ⟨rfl, cut, -, between, -⟩ := parts
  obtain ⟨first, letters, rfl⟩ := List.exists_cons_of_ne_nil filled
  obtain ⟨space, spaces, rfl⟩ := List.exists_cons_of_ne_nil spaced
  have unmarked : Unmarked (first :: letters ++ space :: spaces) := fun c member =>
    (List.mem_append.mp member).elim (clear.unmarked c) (unmarked_of_blank between c)
  obtain ⟨q, done, open_, quote, leads⟩ := quoted_front fault cut unmarked
  let kept := (letters ++ space :: spaces).take spaces.length
  have line : (front ++ (first :: letters ++ space :: spaces)).take
      ((front ++ (first :: letters ++ space :: spaces)).length - (first :: letters).length) =
      front ++ first :: kept := by
    have size : (front ++ (first :: letters ++ space :: spaces)).length -
        (first :: letters).length = front.length + (spaces.length + 1) := by
      simp
      omega
    rw [size, List.take_length_add_append]
    rfl
  have unmarked' : Unmarked (first :: kept) := fun c member =>
    unmarked c (List.mem_of_mem_take (i := spaces.length + 1) member)
  rw [line] at same
  -- What is left of the word is between quotes as well, so the text stays open.
  obtain ⟨more', n, open', leads'⟩ := exists_leads (.inr (.quote quote)) (first :: kept)
  obtain rfl : n = .quote q := (leads'.unmarked unmarked').2 q quote rfl
  obtain ⟨f', fault'⟩ := scan_front_quoted (leads.append leads') (.quote quote) clear'
  rcases List.eq_nil_or_concat kept with none_ | ⟨before, last, some_⟩
  · rw [none_, List.append_assoc] at fault' same
    have blank := blank_of_goes_on fault' clear' same
    exact absurd (blank.symm.trans (clear.ink first List.mem_cons_self)) (by simp)
  · have text : front ++ first :: kept ++ more = front ++ first :: before ++ last :: more := by
      simp [some_]
    rw [text] at fault' same
    have blank := blank_of_goes_on fault' clear' same
    have ends := ink_at_end clear'.ink filled' (front ++ first :: before ++ [last])
    rw [List.append_assoc _ [last], List.singleton_append] at ends
    rw [tokenChars_open_ink fault' ends, piecesFrom_separated blank, piecesFrom_cut cut,
      piecesFrom_inside clear'.ink filled'] at same
    have none_ : piecesFrom isBlank [] (first :: before) = [] := by simpa using same
    have blank' := (piecesFrom_eq_nil none_).2 first List.mem_cons_self
    exact absurd (blank'.symm.trans (clear.ink first List.mem_cons_self)) (by simp)

/-- In a text that cannot be split, too, the word is typed as it is read. -/
theorem asTyped_of_accepted_open {f : Words.Fault} (fault : scan .gap [] cs = .error f)
    (clear : Clear word) (last : (tokenChars cs).getLastD [] = word) (clear' : Clear more)
    (filled : more ≠ [])
    (same : tokenChars (cs.take (cs.length - word.length) ++ more) =
      (tokenChars cs).dropLast ++ [more]) : AsTyped cs word := by
  have unsplit (ws : List (List Char)) : scan .gap [] cs ≠ .ok ws := by simp [fault]
  obtain ⟨front, run, gap, parts⟩ := exists_lastRun isBlank cs
  have filledRun : run ≠ [] := by
    rintro rfl
    have blank : Unmarked cs := by
      rw [parts.whole, parts.none_ rfl]
      exact unmarked_of_blank parts.between
    obtain ⟨q, done, open_, quote, leads⟩ := @quoted_front [] cs f fault (by simp) blank
    obtain ⟨f', fault'⟩ := leads.fault_of_quoted (.quote quote)
    cases fault'
  have runs := parts.pieces filledRun
  by_cases spaced : ([' '].isSuffixOf cs || ['\t'].isSuffixOf cs) = true
  · rw [tokenChars_open fault, if_pos spaced, List.getLastD_concat] at last
    subst last
    refine ⟨List.nil_suffix, fun front' b same' blank => ⟨?_, fun ws read => ?_⟩⟩
    · subst same'
      simp only [Bool.or_eq_true, List.isSuffixOf_iff_suffix] at spaced
      rcases spaced with ⟨_, whole⟩ | ⟨_, whole⟩
      · obtain rfl : ' ' = b := by simpa using (List.append_inj' whole rfl).2
        decide
      · obtain rfl : '\t' = b := by simpa using (List.append_inj' whole rfl).2
        decide
    · cases fault.symm.trans read
  · rw [tokenChars_open fault, if_neg spaced, List.append_nil, runs] at last same
    obtain rfl : run = word := by simpa using last
    rw [List.dropLast_concat] at same
    by_cases atEnd : gap = []
    · subst atEnd
      refine ⟨⟨front, by rw [parts.whole, List.append_nil]⟩, fun front' b same' blank => ?_⟩
      have ends := ink_at_end parts.inside filledRun front b
      rw [← List.append_nil run, ← parts.whole, same'] at ends
      exact absurd (blank.symm.trans (ends (by simp))) (by simp)
    · exact (not_accepted_blank fault parts clear filledRun atEnd clear' filled same).elim

end LastWord

/-! ## Completions -/

/-- The last word before the cursor. -/
def lastToken (text : String) : String := (tokens text).getLastD ""

section Texts

variable {c : Completion} {text : String}

theorem toList_lastToken (text : String) :
    (lastToken text).toList = (tokenChars text.toList).getLastD [] := by
  unfold lastToken
  rw [tokens_eq]
  rcases List.eq_nil_or_concat (tokenChars text.toList) with none_ | ⟨before, word, same⟩
  · rw [none_]
    rfl
  · rw [same]
    simp

theorem length_lastToken_le (text : String) : (lastToken text).length ≤ text.length := by
  rw [← String.length_toList, ← String.length_toList, toList_lastToken]
  exact length_last_le text.toList

theorem tokens_accept_iff (covers : c.replaced = (lastToken text).length) :
    tokens (c.accept text) = (tokens text).dropLast ++ [c.text] ↔
      tokenChars (text.toList.take (text.toList.length - (lastToken text).toList.length) ++
        c.text.toList) = (tokenChars text.toList).dropLast ++ [c.text.toList] := by
  have inverse : String.toList ∘ String.ofList = id := funext fun _ => String.toList_ofList
  have back (ws : List (List Char)) : (ws.map String.ofList).map String.toList = ws := by
    rw [List.map_map, inverse, List.map_id]
  have ends : c.text = String.ofList c.text.toList := String.ofList_toList.symm
  unfold accept
  rw [tokens_eq, tokens_eq, String.toList_append, String.toList_ofList, covers,
    String.length_toList, String.length_toList]
  constructor
  · intro same
    have chars := congrArg (List.map String.toList) same
    rw [List.map_append, back, ← List.map_dropLast, back] at chars
    exact chars
  · intro same
    rw [same, List.map_append, List.map_dropLast]
    simp

/-- Accepting a clear completion makes it the last token, in place of the last word, just where the
word is typed as it is read. -/
theorem accept_iff (covers : c.replaced = (lastToken text).length)
    (clear : Clear (lastToken text).toList) (clear' : Clear c.text.toList) (filled : c.text ≠ "") :
    tokens (c.accept text) = (tokens text).dropLast ++ [c.text] ↔
      AsTyped text.toList (lastToken text).toList := by
  have filled' : c.text.toList ≠ [] := by simpa using filled
  have last := (toList_lastToken text).symm
  rw [tokens_accept_iff covers]
  constructor
  · intro same
    cases read : scan .gap [] text.toList with
    | ok ws => exact asTyped_of_accepted read clear last clear' filled' same
    | error f => exact asTyped_of_accepted_open read clear last clear' filled' same
  · exact fun typed => tokenChars_accepted typed clear last clear' filled'

theorem mem_offer {candidates : List String} {start : String} (member : c ∈ offer candidates start) :
    c.replaced = start.length ∧ c.text ∈ candidates ∧
      startsWith (lower c.text) (lower start) = true := by
  obtain ⟨name, taken, rfl⟩ := List.mem_map.mp member
  have fits := List.mem_eraseDups.mp (List.mem_of_mem_take taken)
  obtain ⟨among, begins⟩ := List.mem_filter.mp (List.mem_mergeSort.mp fits)
  exact ⟨rfl, among, begins⟩

end Texts

section Offers

variable {scope : Scope} {text : String} {d e : Desk} {cs : List Completion} {c : Completion}

/-- How the word begins that a subject asks for. -/
def Subject.start? : Subject → Option String
  | .path => none
  | .command => some ""
  | .first start | .expression start => some start

theorem start_of_subject (r : Registry) (style : PromptStyle) (text : String) :
    subject r style text = .path ∨ (subject r style text).start? = some (lastToken text) := by
  unfold subject lastToken
  split
  · exact .inl rfl
  · cases tokens text with
    | nil => exact .inr rfl
    | cons word rest =>
      cases rest with
      | nil => exact .inr rfl
      | cons next rest =>
        dsimp only
        split
        · exact .inl rfl
        · exact .inr rfl

/-- What is offered for a name begins as the last word does, and takes its place. -/
theorem offered (named : subject d.registry d.promptStyle text ≠ .path)
    (ran : completions scope text d = .ok cs e) (member : c ∈ cs) :
    c.replaced = (lastToken text).length ∧
      startsWith (lower c.text) (lower (lastToken text)) = true := by
  have fits {candidates : List String} {start : String} (begins : start = lastToken text)
      (offers : offer candidates start = cs) : c.replaced = (lastToken text).length ∧
        startsWith (lower c.text) (lower (lastToken text)) = true := by
    subst offers begins
    obtain ⟨covers, -, begins⟩ := mem_offer member
    exact ⟨covers, begins⟩
  have begins := (start_of_subject d.registry d.promptStyle text).resolve_left named
  unfold completions at ran
  rw [bind_apply, get_apply] at ran
  dsimp only at ran
  cases asks : subject d.registry d.promptStyle text with
  | path => exact absurd asks named
  | command =>
    rw [asks] at ran begins
    cases ran
    exact fits (Option.some.inj begins) rfl
  | first start =>
    rw [asks] at ran begins
    obtain ⟨names, u, -, ran⟩ := bind_ok ran
    cases ran
    exact fits (Option.some.inj begins) rfl
  | expression start =>
    rw [asks] at ran begins
    obtain ⟨names, u, -, ran⟩ := bind_ok ran
    cases ran
    exact fits (Option.some.inj begins) rfl

/-- A completion that is offered for a name begins as the last word does and takes the place of as
many characters. Where the last word is typed as it is read, accepting the completion changes
nothing else that was typed. Just there the tokens of the text that this makes are those of the
text before, with the completion in place of the last one. -/
theorem accepted_completion (named : subject d.registry d.promptStyle text ≠ .path)
    (ran : completions scope text d = .ok cs e) (member : c ∈ cs) :
    c.replaced = (lastToken text).length ∧ c.replaced ≤ text.length ∧
    startsWith (lower c.text) (lower (lastToken text)) = true ∧
    (AsTyped text.toList (lastToken text).toList →
      ∃ front, text = front ++ lastToken text ∧ c.accept text = front ++ c.text) ∧
    (Clear (lastToken text).toList → Clear c.text.toList → c.text ≠ "" →
      (tokens (c.accept text) = (tokens text).dropLast ++ [c.text] ↔
        AsTyped text.toList (lastToken text).toList)) := by
  obtain ⟨covers, begins⟩ := offered named ran member
  refine ⟨covers, covers ▸ length_lastToken_le text, begins, ?_,
    fun clear clear' filled => accept_iff covers clear clear' filled⟩
  rintro ⟨⟨front, whole⟩, -⟩
  have length : text.length - c.replaced = front.length := by
    rw [covers, ← String.length_toList, ← String.length_toList, ← whole, List.length_append]
    omega
  refine ⟨String.ofList front, ?_, ?_⟩
  · rw [← String.toList_inj, String.toList_append, String.toList_ofList, whole]
  · rw [accept, length, ← whole, List.take_left]

end Offers

/-- A shell that knows a module with one name. -/
def besideModule : State :=
  let names := Names.ofList [("alpha", .int 1)]
  freshOn { heap := #[.names names none, .module "m" none 0] } [("m", .ref 1)] []

/-- What was offered. -/
def given : EStateM.Result Stop Desk (List Completion) → List Completion
  | .ok cs _ => cs
  | .error _ _ => []

/-- The name is completed behind another word. -/
theorem attribute_accepted :
    let d := besideModule.desk
    let c : Completion := ⟨"m.alpha", 2⟩
    subject d.registry d.promptStyle "x m." ≠ .path ∧
    c ∈ given (completions besideModule.stack.top.scope "x m." d) ∧
    tokens (c.accept "x m.") = ["x", "m.alpha"] := by
  intro d c
  have named : subject d.registry d.promptStyle "x m." ≠ .path := by decide +kernel
  have offers : given (completions besideModule.stack.top.scope "x m." d) = [c] := by
    decide +kernel
  refine ⟨named, by rw [offers]; exact List.mem_singleton_self c, ?_⟩
  cases ran : completions besideModule.stack.top.scope "x m." d with
  | error stop e =>
    rw [ran] at offers
    cases offers
  | ok cs e =>
    rw [ran] at offers
    obtain rfl : cs = [c] := offers
    obtain ⟨-, -, -, -, exchanged⟩ := accepted_completion named ran (List.mem_singleton_self c)
    have last : lastToken "x m." = "m." := by decide +kernel
    have before : (tokens "x m.").dropLast = ["x"] := by decide +kernel
    rw [last, before] at exchanged
    refine (exchanged (by decide +kernel) (by decide +kernel) (by decide)).mpr ?_
    refine ⟨⟨['x', ' '], rfl⟩, fun front b whole blank => ?_⟩
    obtain rfl : '.' = b := by
      simpa using congrArg List.getLast? (whole : ['x', ' ', 'm', '.'] = front ++ [b])
    exact absurd blank (by decide)

/-- Accepting a completion for a name puts it in place of the last token, and changes no other. -/
def Exchanged : Prop :=
  ∀ (scope : Scope) (d : Desk) (text : String) (c : Completion),
    subject d.registry d.promptStyle text ≠ .path → c ∈ given (completions scope text d) →
    tokens (c.accept text) = (tokens text).dropLast ++ [c.text]

/-- A word between quotes has fewer characters than are written for it. -/
theorem quoted_word_not_exchanged : ¬ Exchanged := by
  intro exchanged
  have offers : given (completions besideModule.stack.top.scope "x \"m.\"" besideModule.desk) =
      [⟨"m.alpha", 2⟩] := by decide +kernel
  have same := exchanged besideModule.stack.top.scope besideModule.desk "x \"m.\"" ⟨"m.alpha", 2⟩
    (by decide +kernel) (by rw [offers]; exact List.mem_singleton_self _)
  revert same
  decide +kernel

end Completion

end NestShell.Shell

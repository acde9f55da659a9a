import Mathlib.Data.List.Induction
import NestShell.Proofs.Text.Arguments

/-!
# The last word of a line

A line can go on behind its last character. Where reading has come to tells what further characters
do: outside quotes they are added to the word that is open there, or to a new one, and between
quotes the line stays open. What has been read of words is never longer than what was written for
it, and it is as long only where it was written as it is.
-/

namespace NestShell.Text

/-! ## Runs between separators -/

section Pieces

variable {p : Char → Bool} {cs : List Char}

theorem piecesFrom_cons (open_ : List Char) (c : Char) (cs : List Char) :
    piecesFrom p open_ (c :: cs) =
      if p c then (if open_ = [] then [] else [open_.reverse]) ++ piecesFrom p [] cs
      else piecesFrom p (c :: open_) cs := by
  cases open_ <;> simp [piecesFrom]

theorem piecesFrom_inside (inside : ∀ c ∈ cs, p c = false) (filled : cs ≠ [])
    (open_ : List Char) : piecesFrom p open_ cs = [open_.reverse ++ cs] := by
  induction cs generalizing open_ with
  | nil => exact absurd rfl filled
  | cons c cs ih =>
    rw [piecesFrom_cons, if_neg (by simp [inside c List.mem_cons_self])]
    cases cs with
    | nil => simp [piecesFrom]
    | cons d cs =>
      rw [ih (fun e member => inside e (List.mem_cons_of_mem c member)) (List.cons_ne_nil d cs)]
      simp

theorem piecesFrom_separated {b : Char} (separates : p b = true) (xs ys open_ : List Char) :
    piecesFrom p open_ (xs ++ b :: ys) = piecesFrom p open_ xs ++ piecesFrom p [] ys := by
  induction xs generalizing open_ with
  | nil => cases open_ <;> simp [piecesFrom, separates]
  | cons x xs ih =>
    rw [List.cons_append, piecesFrom_cons, piecesFrom_cons, ih, ih]
    split <;> simp

/-- The last run goes on: what stands before it and how it begins do not depend on how. -/
theorem piecesFrom_goes_on (xs open_ : List Char) : ∃ before start,
    ∀ cs, (∀ c ∈ cs, p c = false) → cs ≠ [] →
      piecesFrom p open_ (xs ++ cs) = before ++ [start ++ cs] := by
  induction xs generalizing open_ with
  | nil => exact ⟨[], open_.reverse, fun cs inside filled => piecesFrom_inside inside filled open_⟩
  | cons x xs ih =>
    by_cases here : p x = true
    · obtain ⟨before, start, goesOn⟩ := ih []
      refine ⟨(if open_ = [] then [] else [open_.reverse]) ++ before, start,
        fun cs inside filled => ?_⟩
      rw [List.cons_append, piecesFrom_cons, if_pos here, goesOn cs inside filled,
        List.append_assoc]
    · obtain ⟨before, start, goesOn⟩ := ih (x :: open_)
      refine ⟨before, start, fun cs inside filled => ?_⟩
      rw [List.cons_append, piecesFrom_cons, if_neg here]
      exact goesOn cs inside filled

theorem piecesFrom_filled (xs open_ : List Char) : ∀ run ∈ piecesFrom p open_ xs, run ≠ [] := by
  fun_induction piecesFrom p open_ xs with
  | case1 => simp
  | case2 open_ filled => simpa using filled
  | case3 c cs separates ih => simpa using ih
  | case4 open_ c cs separates filled ih => simpa using ⟨filled, ih⟩
  | case5 open_ c cs inside ih => exact ih

theorem piecesFrom_eq_nil {xs open_ : List Char} (none_ : piecesFrom p open_ xs = []) :
    open_ = [] ∧ ∀ x ∈ xs, p x = true := by
  fun_induction piecesFrom p open_ xs with
  | case1 => simp
  | case2 open_ filled => simp at none_
  | case3 c cs separates ih => simpa [separates] using ih none_
  | case4 open_ c cs separates filled ih => simp at none_
  | case5 open_ c cs inside ih => exact absurd (ih none_).1 (List.cons_ne_nil c open_)

theorem piecesFrom_of_last {xs open_ : List Char}
    (last : (piecesFrom p open_ xs).getLastD [] = []) : piecesFrom p open_ xs = [] := by
  rcases List.eq_nil_or_concat (piecesFrom p open_ xs) with none_ | ⟨before, run, same⟩
  · exact none_
  · rw [same, List.concat_eq_append, List.getLastD_concat] at last
    have member : run ∈ piecesFrom p open_ xs := by simp [same]
    exact absurd last (piecesFrom_filled xs open_ run member)

theorem length_piecesFrom (xs open_ : List Char) :
    (piecesFrom p open_ xs).flatten.length ≤ open_.length + xs.length := by
  fun_induction piecesFrom p open_ xs with
  | case1 => simp
  | case2 open_ filled => simp
  | case3 c cs separates ih => simp at ih ⊢; omega
  | case4 open_ c cs separates filled ih => simp at ih ⊢; omega
  | case5 open_ c cs inside ih => simp at ih ⊢; omega

theorem piecesFrom_separators (between : ∀ c ∈ cs, p c = true) : piecesFrom p [] cs = [] := by
  induction cs with
  | nil => rfl
  | cons c cs ih =>
    rw [piecesFrom_cons, if_pos (between c List.mem_cons_self), if_pos rfl, List.nil_append]
    exact ih fun d member => between d (List.mem_cons_of_mem c member)

/-- The runs of a text that is cut at a separator are those of its parts. -/
theorem piecesFrom_cut {xs : List Char} (cut : ∀ b ∈ xs.getLast?, p b = true) (ys : List Char) :
    piecesFrom p [] (xs ++ ys) = piecesFrom p [] xs ++ piecesFrom p [] ys := by
  rcases List.eq_nil_or_concat xs with rfl | ⟨front, b, rfl⟩
  · rfl
  · have separates : p b = true := cut b (by simp)
    rw [List.concat_eq_append, List.append_assoc, List.singleton_append,
      piecesFrom_separated separates, piecesFrom_separated separates, piecesFrom]
    simp

/-- The last run of a text, with the separators behind it. -/
structure LastRun (p : Char → Bool) (cs front run gap : List Char) : Prop where
  whole : cs = front ++ (run ++ gap)
  cut : ∀ b ∈ front.getLast?, p b = true
  inside : ∀ c ∈ run, p c = false
  between : ∀ c ∈ gap, p c = true
  none_ : run = [] → front = []

theorem exists_lastRun (p : Char → Bool) (cs : List Char) :
    ∃ front run gap, LastRun p cs front run gap := by
  induction cs using List.reverseRecOn with
  | nil => exact ⟨[], [], [], ⟨rfl, by simp, by simp, by simp, fun _ => rfl⟩⟩
  | append_singleton cs c ih =>
    obtain ⟨front, run, gap, ⟨rfl, cut, inside, between, none_⟩⟩ := ih
    by_cases separates : p c = true
    · refine ⟨front, run, gap ++ [c], ⟨by simp, cut, inside, ?_, none_⟩⟩
      intro d member
      rcases List.mem_append.mp member with member | member
      · exact between d member
      · rwa [List.mem_singleton.mp member]
    · have ink : p c = false := by simpa using separates
      rcases List.eq_nil_or_concat gap with rfl | ⟨gap, g, rfl⟩
      · refine ⟨front, run ++ [c], [], ⟨by simp, cut, ?_, by simp, by simp⟩⟩
        intro d member
        rcases List.mem_append.mp member with member | member
        · exact inside d member
        · rwa [List.mem_singleton.mp member]
      · refine ⟨front ++ (run ++ gap ++ [g]), [c], [], ⟨by simp, ?_, by simpa using ink, by simp,
          by simp⟩⟩
        intro b last
        obtain rfl : g = b := by simpa [List.getLast?_append] using last
        exact between g (by simp)

namespace LastRun

variable {front run gap : List Char}

theorem pieces (last : LastRun p cs front run gap) (filled : run ≠ []) :
    piecesFrom p [] cs = piecesFrom p [] front ++ [run] := by
  have alone : piecesFrom p [] (run ++ gap) = [run] := by
    cases gap with
    | nil =>
      rw [List.append_nil, piecesFrom_inside last.inside filled]
      rfl
    | cons g gap =>
      have separates : p g = true := last.between g List.mem_cons_self
      rw [piecesFrom_separated separates, piecesFrom_inside last.inside filled,
        piecesFrom_separators fun c member => last.between c (List.mem_cons_of_mem g member)]
      rfl
  rw [last.whole, piecesFrom_cut last.cut, alone]

end LastRun

end Pieces

namespace Words

/-! ## Places in a line -/

/-- A place outside quotes, with what has been read of the word that is open there. -/
inductive Unquoted : Mode → List Char → Prop where
  | gap : Unquoted .gap []
  | word (open_ : List Char) : Unquoted .word open_
  | escape (open_ : List Char) : Unquoted (.escape none) open_

/-- A place between quotes. -/
inductive Quoted : Mode → Prop where
  | quote {q : Char} : isQuote q = true → Quoted (.quote q)
  | escape : Quoted (.escape (some '\x22'))

/-- What one character does: some words have ended, and there is another place. -/
inductive Step : Mode → List Char → Char → List (List Char) → Mode → List Char → Prop where
  | skips {c : Char} : isSeparator c = true → Step .gap [] c [] .gap []
  | ends {c : Char} (open_ : List Char) : isSeparator c = true →
      Step .word open_ c [open_.reverse] .gap []
  | opens {m : Mode} {open_ : List Char} {q : Char} : Begins m open_ → isQuote q = true →
      Step m open_ q [] (.quote q) open_
  | escapes {m : Mode} {open_ : List Char} : Begins m open_ →
      Step m open_ '\\' [] (.escape none) open_
  | reads {m : Mode} {open_ : List Char} {c : Char} : Begins m open_ → isBare c = true →
      Step m open_ c [] .word (c :: open_)
  | takes (open_ : List Char) (c : Char) : Step (.escape none) open_ c [] .word (c :: open_)
  | closes {q : Char} (open_ : List Char) : isQuote q = true → Step (.quote q) open_ q [] .word open_
  | escapesInside (open_ : List Char) :
      Step (.quote '\x22') open_ '\\' [] (.escape (some '\x22')) open_
  | readsInside {q c : Char} (open_ : List Char) : isQuote q = true → c ≠ q →
      ¬ (c = '\\' ∧ q = '\x22') → Step (.quote q) open_ c [] (.quote q) (c :: open_)
  | takesInside (open_ : List Char) (c : Char) :
      Step (.escape (some '\x22')) open_ c [] (.quote '\x22')
        ((if c = '\\' ∨ c = '\x22' then [c] else [c, '\\']) ++ open_)

section Steps

variable {m n : Mode} {open_ open' : List Char} {c : Char} {done : List (List Char)}

theorem isQuote_of_bare (bare : isBare c = true) : isQuote c = false := by
  simp only [isBare, Bool.and_eq_true, Bool.not_eq_true'] at bare
  exact bare.1.2

theorem begins_step (begins : Begins m open_) (c : Char) :
    ∃ done n open', Step m open_ c done n open' := by
  by_cases separates : isSeparator c = true
  · cases begins with
    | gap => exact ⟨_, _, _, .skips separates⟩
    | word => exact ⟨_, _, _, .ends open_ separates⟩
  by_cases quote : isQuote c = true
  · exact ⟨_, _, _, .opens begins quote⟩
  by_cases backslash : c = '\\'
  · subst backslash
    exact ⟨_, _, _, .escapes begins⟩
  · exact ⟨_, _, _, .reads begins (by simp [isBare, separates, quote, backslash])⟩

theorem exists_step (stands : Unquoted m open_ ∨ Quoted m) (c : Char) :
    ∃ done n open', Step m open_ c done n open' := by
  rcases stands with (_ | _ | _) | (⟨quote⟩ | _)
  · exact begins_step .gap c
  · exact begins_step (.word _) c
  · exact ⟨_, _, _, .takes open_ c⟩
  · next q =>
    by_cases closes : c = q
    · subst closes
      exact ⟨_, _, _, .closes open_ quote⟩
    by_cases escapes : c = '\\' ∧ q = '\x22'
    · obtain ⟨rfl, rfl⟩ := escapes
      exact ⟨_, _, _, .escapesInside open_⟩
    · exact ⟨_, _, _, .readsInside open_ quote closes escapes⟩
  · exact ⟨_, _, _, .takesInside open_ c⟩

theorem Step.stands (step : Step m open_ c done n open') : Unquoted n open' ∨ Quoted n := by
  cases step with
  | skips => exact .inl .gap
  | ends => exact .inl .gap
  | opens _ quote => exact .inr (.quote quote)
  | escapes => exact .inl (.escape _)
  | reads => exact .inl (.word _)
  | takes => exact .inl (.word _)
  | closes => exact .inl (.word _)
  | escapesInside => exact .inr .escape
  | readsInside _ quote => exact .inr (.quote quote)
  | takesInside => exact .inr (.quote isQuote_mark)

theorem scan_step (step : Step m open_ c done n open') (rest : List Char) :
    scan m open_ (c :: rest) = (done ++ ·) <$> scan n open' rest := by
  have same (r : Except Fault (List (List Char))) : (([] : List (List Char)) ++ ·) <$> r = r := by
    cases r <;> rfl
  cases step with
  | skips separates => rw [same, scan_separator separates]
  | ends _ separates =>
    rw [scan, if_pos separates]
    rfl
  | opens begins quote => rw [same, scan_opens begins quote]
  | escapes begins => rw [same, scan_escapes begins]
  | reads begins bare => exact (scan_piece begins (.char c bare) rest).trans (same _).symm
  | takes => rw [same, scan]
  | closes => rw [same, scan, if_pos (by simp)]
  | escapesInside => rw [same, scan, if_neg (by decide), if_pos (by decide)]
  | readsInside _ _ other plain =>
    rw [same, scan, if_neg (by simpa using other), if_neg (by simpa using plain)]
  | takesInside =>
    rw [same, scan]
    by_cases special : c = '\\' ∨ c = '\x22'
    · rw [if_pos (by simpa using special), if_pos special]
      rfl
    · rw [if_neg (by simpa using special), if_neg special]
      rfl

end Steps

/-! ## Parts of a line -/

/-- What some characters do, one after another. -/
inductive Leads (m : Mode) (open_ : List Char) :
    List Char → List (List Char) → Mode → List Char → Prop where
  | start : Leads m open_ [] [] m open_
  | next {cs : List Char} {done more : List (List Char)} {n k : Mode} {open' open'' : List Char}
      {c : Char} : Leads m open_ cs done n open' → Step n open' c more k open'' →
      Leads m open_ (cs ++ [c]) (done ++ more) k open''

section Parts

variable {m n : Mode} {open_ open' cs : List Char} {done : List (List Char)}

theorem Leads.stands (leads : Leads m open_ cs done n open') (start : Unquoted m open_ ∨ Quoted m) :
    Unquoted n open' ∨ Quoted n := by
  cases leads with
  | start => exact start
  | next _ step => exact step.stands

theorem exists_leads (start : Unquoted m open_ ∨ Quoted m) (cs : List Char) :
    ∃ done n open', Leads m open_ cs done n open' := by
  induction cs using List.reverseRecOn with
  | nil => exact ⟨_, _, _, .start⟩
  | append_singleton cs c ih =>
    obtain ⟨done, n, open', leads⟩ := ih
    obtain ⟨more, k, open'', step⟩ := exists_step (leads.stands start) c
    exact ⟨_, _, _, leads.next step⟩

theorem Leads.append {k : Mode} {open'' ds : List Char} {more : List (List Char)}
    (leads : Leads m open_ cs done n open') (leads' : Leads n open' ds more k open'') :
    Leads m open_ (cs ++ ds) (done ++ more) k open'' := by
  induction leads' with
  | start => simpa using leads
  | next _ step ih =>
    rw [← List.append_assoc, ← List.append_assoc]
    exact ih.next step

theorem scan_leads (leads : Leads m open_ cs done n open') (rest : List Char) :
    scan m open_ (cs ++ rest) = (done ++ ·) <$> scan n open' rest := by
  induction leads generalizing rest with
  | start =>
    rw [List.nil_append]
    cases scan m open_ rest <;> rfl
  | @next cs done more n k open' open'' c _ step ih =>
    rw [List.append_assoc, List.singleton_append, ih, scan_step step]
    cases scan k open'' rest with
    | error f => rfl
    | ok ws => simp [Functor.map, Except.map]

theorem Leads.last {c : Char} (leads : Leads m open_ (cs ++ [c]) done n open') :
    ∃ before k held more, Leads m open_ cs before k held ∧ Step k held c more n open' ∧
      done = before ++ more := by
  generalize whole : cs ++ [c] = line at leads
  cases leads with
  | start => simp at whole
  | next leads step =>
    obtain ⟨rfl, last⟩ := List.append_inj' whole rfl
    obtain rfl : c = _ := by simpa using last
    exact ⟨_, _, _, _, leads, step, rfl⟩

/-- Which words there are where the line ends. -/
theorem Leads.scan_eq_ok (leads : Leads m open_ cs done n open') {ws : List (List Char)} :
    scan m open_ cs = .ok ws ↔
      n = .gap ∧ ws = done ∨ n = .word ∧ ws = done ++ [open'.reverse] := by
  have read := scan_leads leads []
  rw [List.append_nil] at read
  rw [read]
  cases n <;> simp [scan, Functor.map, Except.map, eq_comm]

end Parts

/-! ## Lengths -/

/-- How long what is held of the open word is; a backslash between quotes may still be added. -/
def held : Mode → List Char → Nat
  | .escape (some _), open_ => open_.length + 1
  | _, open_ => open_.length

section Lengths

variable {m n : Mode} {open_ open' cs : List Char} {c : Char} {done : List (List Char)}

theorem Step.held_le (step : Step m open_ c done n open') :
    done.flatten.length + held n open' ≤ held m open_ + 1 := by
  cases step with
  | opens begins => cases begins <;> simp [held]
  | escapes begins => cases begins <;> simp [held]
  | reads begins => cases begins <;> simp [held]
  | takesInside =>
    split <;> simp [held]
  | _ => simp [held]

/-- Outside quotes only characters that are read as they are make up for themselves. -/
theorem Step.kept (step : Step m open_ c done n open') (outside : Unquoted m open_)
    (whole : done.flatten.length + held n open' = held m open_ + 1) :
    Unquoted n open' ∧ done = [] ∧ open' = c :: open_ := by
  cases step with
  | skips => simp [held] at whole
  | ends => simp [held] at whole
  | opens begins => cases begins <;> simp [held] at whole
  | escapes begins => cases begins <;> simp [held] at whole
  | reads => exact ⟨.word _, rfl, rfl⟩
  | takes => exact ⟨.word _, rfl, rfl⟩
  | _ => cases outside

theorem Leads.held_le (leads : Leads m open_ cs done n open') :
    done.flatten.length + held n open' ≤ held m open_ + cs.length := by
  induction leads with
  | start => simp
  | next _ step ih =>
    have more := step.held_le
    simp only [List.flatten_append, List.length_append, List.length_singleton]
    omega

/-- What is read is as long as what is written only where it is the same. -/
theorem Leads.kept (leads : Leads m open_ cs done n open') (outside : Unquoted m open_)
    (whole : done.flatten.length + held n open' = held m open_ + cs.length) :
    Unquoted n open' ∧ done = [] ∧ open'.reverse = open_.reverse ++ cs := by
  induction leads with
  | start => exact ⟨outside, rfl, by simp⟩
  | @next cs done more n k open' open'' c leads step ih =>
    have most := leads.held_le
    have bound := step.held_le
    simp only [List.flatten_append, List.length_append, List.length_singleton] at whole
    obtain ⟨there, none_, same⟩ := ih (by omega)
    obtain ⟨there', rfl, rfl⟩ := step.kept there (by omega)
    exact ⟨there', by rw [none_]; rfl, by simp [same]⟩

/-- The word that is open goes on until it ends; later words are shorter than what is written. -/
theorem Leads.opened (leads : Leads m open_ cs done n open') (filled : m ≠ .gap) :
    n ≠ .gap ∧ done = [] ∧ open_ <:+ open' ∨
      ∃ word later, done = word :: later ∧ open_.reverse <+: word ∧
        later.flatten.length + held n open' < cs.length := by
  induction leads with
  | start => exact .inl ⟨filled, rfl, List.suffix_rfl⟩
  | @next cs done more n k open' open'' c leads step ih =>
    have bound := step.held_le
    rcases ih with ⟨open_', rfl, goesOn⟩ | ⟨word, later, rfl, begins, short⟩
    · cases step with
      | skips => exact absurd rfl open_'
      | ends => exact .inr ⟨_, [], rfl, List.reverse_prefix.mpr goesOn, by simp [held]⟩
      | opens => exact .inl ⟨nofun, rfl, goesOn⟩
      | escapes => exact .inl ⟨nofun, rfl, goesOn⟩
      | reads => exact .inl ⟨nofun, rfl, goesOn.trans (List.suffix_cons c _)⟩
      | takes => exact .inl ⟨nofun, rfl, goesOn.trans (List.suffix_cons c _)⟩
      | closes => exact .inl ⟨nofun, rfl, goesOn⟩
      | escapesInside => exact .inl ⟨nofun, rfl, goesOn⟩
      | readsInside => exact .inl ⟨nofun, rfl, goesOn.trans (List.suffix_cons c _)⟩
      | takesInside => exact .inl ⟨nofun, rfl, goesOn.trans (List.suffix_append _ _)⟩
    · refine .inr ⟨word, later ++ more, rfl, begins, ?_⟩
      simp only [List.flatten_append, List.length_append, List.length_singleton]
      omega

end Lengths

/-! ## Plain characters -/

/-- Characters that mean themselves and are no blanks. -/
def Clear (cs : List Char) : Prop := ∀ c ∈ cs, isBare c = true ∧ isBlank c = false

instance (cs : List Char) : Decidable (Clear cs) := List.decidableBAll _ cs

section Clear

variable {m n : Mode} {open_ open' cs front : List Char} {done : List (List Char)}

theorem Clear.bare (clear : Clear cs) : ∀ c ∈ cs, isBare c = true :=
  fun c member => (clear c member).1

theorem Clear.ink (clear : Clear cs) : ∀ c ∈ cs, isBlank c = false :=
  fun c member => (clear c member).2

/-- Outside quotes they are added to the word that is open. -/
theorem scan_clear_unquoted (outside : Unquoted m open_) (clear : Clear cs) (filled : cs ≠ []) :
    scan m open_ cs = .ok [open_.reverse ++ cs] := by
  have inWord (open_ : List Char) (cs : List Char) (bare : ∀ c ∈ cs, isBare c = true) :
      scan .word open_ cs = .ok [open_.reverse ++ cs] := by
    rw [← List.append_nil cs, scan_bare bare, scan]
    simp
  cases cs with
  | nil => exact absurd rfl filled
  | cons c cs =>
    have first : scan m open_ (c :: cs) = scan .word (c :: open_) cs := by
      cases outside with
      | gap => exact scan_piece .gap (.char c (clear.bare c List.mem_cons_self)) cs
      | word => exact scan_piece (.word _) (.char c (clear.bare c List.mem_cons_self)) cs
      | escape => rw [scan]
    rw [first, inWord _ cs fun d member => clear.bare d (List.mem_cons_of_mem c member)]
    simp

/-- Between quotes they leave the line open. -/
theorem scan_clear_quoted (inside : Quoted m) (clear : Clear cs) : ∃ f, scan m open_ cs = .error f := by
  have inQuote {q : Char} (quote : isQuote q = true) (open_ cs : List Char)
      (bare : ∀ c ∈ cs, isBare c = true) : scan (.quote q) open_ cs = .error .openQuote := by
    induction cs generalizing open_ with
    | nil => rfl
    | cons c cs ih =>
      have here := bare c List.mem_cons_self
      have other : c ≠ q := by
        rintro rfl
        exact absurd (isQuote_of_bare here) (by simp [quote])
      have plain : c ≠ '\\' := by
        rintro rfl
        exact absurd here (by decide)
      rw [scan, if_neg (by simpa using other), if_neg (by simp [plain]),
        ih _ fun d member => bare d (List.mem_cons_of_mem c member)]
  cases inside with
  | quote quote => exact ⟨_, inQuote quote open_ cs clear.bare⟩
  | escape =>
    cases cs with
    | nil => exact ⟨_, rfl⟩
    | cons c cs =>
      have rest : ∀ d ∈ cs, isBare d = true :=
        fun d member => clear.bare d (List.mem_cons_of_mem c member)
      rw [scan]
      split <;> exact ⟨_, inQuote isQuote_mark _ cs rest⟩

/-- The characters behind a part of a line that ends outside quotes belong to one word. -/
theorem scan_front_unquoted (leads : Leads .gap [] front done n open_) (outside : Unquoted n open_)
    (clear : Clear cs) (filled : cs ≠ []) :
    scan .gap [] (front ++ cs) = .ok (done ++ [open_.reverse ++ cs]) := by
  rw [scan_leads leads, scan_clear_unquoted outside clear filled]
  rfl

theorem scan_front_quoted (leads : Leads .gap [] front done n open_) (inside : Quoted n)
    (clear : Clear cs) : ∃ f, scan .gap [] (front ++ cs) = .error f := by
  obtain ⟨f, stopped⟩ := @scan_clear_quoted n open_ cs inside clear
  rw [scan_leads leads, stopped]
  exact ⟨f, rfl⟩

end Clear

/-! ## Blanks at the end -/

theorem isBlank_of_isSeparator {c : Char} (separates : isSeparator c = true) :
    isBlank c = true := by
  simp only [isSeparator, Bool.or_eq_true, beq_iff_eq] at separates
  rcases separates with ((rfl | rfl) | rfl) | rfl <;> decide

theorem isBlank_of_isQuote {c : Char} (quote : isQuote c = true) : isBlank c = false := by
  simp only [isQuote, Bool.or_eq_true, beq_iff_eq] at quote
  rcases quote with rfl | rfl <;> decide

section Blanks

variable {m n : Mode} {open_ open' cs front : List Char} {done : List (List Char)} {b : Char}
  {within : Option Char}

theorem Leads.fault_of_quoted (leads : Leads .gap [] cs done n open_) (inside : Quoted n) :
    ∃ f, scan .gap [] cs = .error f := by
  have nothing : Clear [] := fun c member => absurd member List.not_mem_nil
  simpa using scan_front_quoted leads inside nothing

theorem Leads.fault_of_escape (leads : Leads .gap [] cs done (.escape within) open_) :
    scan .gap [] cs = .error .openEscape := by
  have read := scan_leads leads []
  rw [List.append_nil] at read
  rw [read, scan]
  rfl

/-- Characters that open no quote and escape nothing. -/
def Unmarked (cs : List Char) : Prop := ∀ c ∈ cs, isQuote c = false ∧ c ≠ '\\'

theorem unmarked_of_blank (blank : ∀ c ∈ cs, isBlank c = true) : Unmarked cs := by
  refine fun c member => ⟨?_, ?_⟩
  · by_contra quote
    have ink := isBlank_of_isQuote (c := c) (by simpa using quote)
    exact absurd ((blank c member).symm.trans ink) (by simp)
  · rintro rfl
    exact absurd (blank _ member) (by decide)

theorem Clear.unmarked (clear : Clear cs) : Unmarked cs := by
  refine fun c member => ⟨isQuote_of_bare (clear.bare c member), ?_⟩
  rintro rfl
  exact absurd (clear.bare _ member) (by decide)

/-- Such characters stay outside quotes, or between them. -/
theorem Leads.unmarked (leads : Leads m open_ cs done n open') (unmarked : Unmarked cs) :
    (Begins m open_ → Begins n open') ∧ ∀ q, isQuote q = true → m = .quote q → n = .quote q := by
  induction leads with
  | start => exact ⟨id, fun _ _ => id⟩
  | @next cs done more n k open' open'' c leads step ih =>
    obtain ⟨noQuote, noEscape⟩ := unmarked c (by simp)
    obtain ⟨outside, inside⟩ := ih fun d member => unmarked d (by simp [member])
    constructor
    · intro begins
      have there := outside begins
      cases step with
      | skips => exact .gap
      | ends => exact .gap
      | opens _ quote => simp [noQuote] at quote
      | escapes => exact absurd rfl noEscape
      | reads => exact .word _
      | _ => cases there
    · intro q quote origin
      have there := inside q quote origin
      cases step with
      | closes => simp [Mode.quote.inj there, quote] at noQuote
      | escapesInside => exact absurd rfl noEscape
      | readsInside => exact there
      | opens begins => cases begins <;> cases there
      | escapes begins => cases begins <;> cases there
      | reads begins => cases begins <;> cases there
      | _ => cases there

/-- Behind a blank nothing is escaped. -/
theorem Leads.unescaped (leads : Leads .gap [] cs done (.escape within) open_)
    (blank : ∀ b ∈ cs.getLast?, isBlank b = true) : False := by
  rcases List.eq_nil_or_concat cs with rfl | ⟨front, b, rfl⟩
  · cases leads.fault_of_escape
  · rw [List.concat_eq_append] at leads blank
    obtain ⟨_, _, _, _, _, step, -⟩ := leads.last
    cases step with
    | escapes => exact absurd (blank '\\' (by simp)) (by decide)
    | escapesInside => exact absurd (blank '\\' (by simp)) (by decide)

/-- A line that stays open, where nothing behind a blank opens it, is open there. -/
theorem quoted_front {rest : List Char} {f : Fault} (fault : scan .gap [] (front ++ rest) = .error f)
    (blank : ∀ b ∈ front.getLast?, isBlank b = true) (unmarked : Unmarked rest) :
    ∃ q done open_, isQuote q = true ∧ Leads .gap [] front done (.quote q) open_ := by
  obtain ⟨done, n, open_, leads⟩ := exists_leads (.inl .gap) front
  have closed (begins : Begins n open_) : False := by
    have stands : Unquoted n open_ ∨ Quoted n := leads.stands (.inl .gap)
    obtain ⟨more, k, open', leads'⟩ := exists_leads stands rest
    have line := leads.append leads'
    have whole : ∃ ws, scan .gap [] (front ++ rest) = .ok ws := by
      cases (leads'.unmarked unmarked).1 begins with
      | gap => exact ⟨_, line.scan_eq_ok.mpr (.inl ⟨rfl, rfl⟩)⟩
      | word => exact ⟨_, line.scan_eq_ok.mpr (.inr ⟨rfl, rfl⟩)⟩
    obtain ⟨ws, whole⟩ := whole
    cases whole.symm.trans fault
  rcases leads.stands (.inl .gap) with (_ | _ | _) | (⟨quote⟩ | _)
  · exact (closed .gap).elim
  · exact (closed (.word open_)).elim
  · exact (leads.unescaped blank).elim
  · exact ⟨_, done, open_, quote, leads⟩
  · exact (leads.unescaped blank).elim

/-- A blank between quotes is a part of the open word. -/
theorem Leads.blank_inside (leads : Leads .gap [] (front ++ [b]) done n open_) (inside : Quoted n)
    (blank : isBlank b = true) : b ∈ open_ := by
  obtain ⟨_, _, _, _, _, step, -⟩ := leads.last
  cases step with
  | opens _ quote => simp [isBlank_of_isQuote quote] at blank
  | escapesInside => exact absurd blank (by decide)
  | readsInside => exact List.mem_cons_self
  | takesInside =>
    split <;> exact List.mem_cons_self
  | _ => cases inside

/-- A blank behind which there is no open word separates words, and is not escaped. -/
theorem Leads.separates (leads : Leads .gap [] (front ++ [b]) done .gap open_) :
    isSeparator b = true ∧ ∃ ws, scan .gap [] front = .ok ws := by
  obtain ⟨_, _, _, _, before, step, -⟩ := leads.last
  cases step with
  | skips separates => exact ⟨separates, _, before.scan_eq_ok.mpr (.inl ⟨rfl, rfl⟩)⟩
  | ends _ separates => exact ⟨separates, _, before.scan_eq_ok.mpr (.inr ⟨rfl, rfl⟩)⟩

end Blanks

end Words

end NestShell.Text

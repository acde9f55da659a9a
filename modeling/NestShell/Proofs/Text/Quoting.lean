import Mathlib.Data.List.Basic
import NestShell.Text.Words

/-!
# How command words are written

A line is made of separators and of pieces of words: characters that mean themselves, characters
behind a backslash, and texts between quotes. A line that cannot be split is such a line that is cut
short inside a quote or behind a backslash, and each line is of one of the two kinds. Its fault is
told by two words, and a line of two words of its own can look the same.
-/

namespace NestShell.Text.Words

/-! ## Lines and what they are made of -/

/-- A character that means itself outside quotes. -/
def isBare (c : Char) : Bool := !isSeparator c && !isQuote c && c != '\\'

/-- A part of a text between double quotes. -/
inductive Inner where
  | char (c : Char) (plain : c ≠ '\x22' ∧ c ≠ '\\')
  | escaped (c : Char)

namespace Inner

def written : Inner → List Char
  | char c _ => [c]
  | escaped c => ['\\', c]

/-- Between double quotes a backslash stays, but before the quote and before itself. -/
def read : Inner → List Char
  | char c _ => [c]
  | escaped c => if c = '\\' ∨ c = '\x22' then [c] else ['\\', c]

end Inner

/-- A part of a word. -/
inductive Piece where
  | char (c : Char) (bare : isBare c = true)
  | escaped (c : Char)
  | single (cs : List Char) (closed : '\x27' ∉ cs)
  | double (parts : List Inner)

namespace Piece

def written : Piece → List Char
  | char c _ => [c]
  | escaped c => ['\\', c]
  | single cs _ => '\x27' :: (cs ++ ['\x27'])
  | double parts => '\x22' :: (parts.flatMap Inner.written ++ ['\x22'])

def read : Piece → List Char
  | char c _ => [c]
  | escaped c => [c]
  | single cs _ => cs
  | double parts => parts.flatMap Inner.read

end Piece

inductive Item where
  | separator (c : Char) (separates : isSeparator c = true)
  | piece (p : Piece)

namespace Item

def written : Item → List Char
  | separator c _ => [c]
  | piece p => p.written

def read : Item → List Char
  | separator _ _ => []
  | piece p => p.read

def separates : Item → Bool
  | separator _ _ => true
  | piece _ => false

end Item

def written (items : List Item) : List Char := items.flatMap Item.written

/-- The words among runs of pieces: those that have pieces. Between quotes there may be nothing. -/
def wordsAmong (runs : List (List Item)) : List (List Char) :=
  (runs.filter fun run => !run.isEmpty).map (·.flatMap Item.read)

/-- The words of a line: its runs of pieces between separators. -/
def wordsOf (items : List Item) : List (List Char) :=
  wordsAmong (items.splitOnP Item.separates)

/-- What a line is cut short by: a quote that is not closed, or a backslash with nothing behind it,
inside double quotes or outside. -/
inductive CutShort : Fault → List Char → Prop where
  | single (cs : List Char) : '\x27' ∉ cs → CutShort .openQuote ('\x27' :: cs)
  | double (parts : List Inner) :
      CutShort .openQuote ('\x22' :: parts.flatMap Inner.written)
  | escape : CutShort .openEscape ['\\']
  | escapeInQuote (parts : List Inner) :
      CutShort .openEscape ('\x22' :: (parts.flatMap Inner.written ++ ['\\']))

/-- A line that ends inside a quote or behind a backslash. -/
def EndsOpen (f : Fault) (line : String) : Prop :=
  ∃ items rest, line.toList = written items ++ rest ∧ CutShort f rest

/-! ## Reading what is written -/

theorem isQuote_apostrophe : isQuote '\x27' = true := by decide

theorem isQuote_mark : isQuote '\x22' = true := by decide

theorem isSeparator_quotes {q : Char} (quote : isQuote q = true) : isSeparator q = false := by
  unfold isQuote at quote
  rw [Bool.or_eq_true, beq_iff_eq, beq_iff_eq] at quote
  rcases quote with rfl | rfl <;> decide

theorem scan_single {cs : List Char} (closed : '\x27' ∉ cs) (open_ rest : List Char) :
    scan (.quote '\x27') open_ (cs ++ rest) = scan (.quote '\x27') (cs.reverse ++ open_) rest := by
  induction cs generalizing open_ with
  | nil => rfl
  | cons c cs ih =>
    have here : c ≠ '\x27' := (List.ne_of_not_mem_cons closed).symm
    rw [List.cons_append, scan, if_neg (by simpa using here), if_neg (by simp),
      ih (List.not_mem_of_not_mem_cons closed)]
    simp

theorem scan_double (parts : List Inner) (open_ rest : List Char) :
    scan (.quote '\x22') open_ (parts.flatMap Inner.written ++ rest) =
      scan (.quote '\x22') ((parts.flatMap Inner.read).reverse ++ open_) rest := by
  induction parts generalizing open_ with
  | nil => rfl
  | cons part parts ih =>
    cases part with
    | char c plain =>
      rw [List.flatMap_cons, Inner.written, List.append_assoc, List.singleton_append, scan,
        if_neg (by simpa using plain.1), if_neg (by simp [plain.2]), ih]
      simp [Inner.read]
    | escaped c =>
      rw [List.flatMap_cons, Inner.written, List.append_assoc, List.cons_append, scan,
        if_neg (by decide), if_pos (by decide), List.singleton_append, scan]
      by_cases special : c = '\\' ∨ c = '\x22'
      · rw [if_pos (by simpa using special), ih]
        simp [Inner.read, special]
      · rw [if_neg (by simpa using special), ih]
        simp [Inner.read, special]

/-- Where a piece may begin: between words, or in a word of which some has been read. -/
inductive Begins : Mode → List Char → Prop where
  | gap : Begins .gap []
  | word (open_ : List Char) : Begins .word open_

theorem scan_opens {m : Mode} {open_ : List Char} (begins : Begins m open_) {q : Char}
    (quote : isQuote q = true) (rest : List Char) :
    scan m open_ (q :: rest) = scan (.quote q) open_ rest := by
  have other : (q == '\\') = false := by
    by_contra backslash
    obtain rfl : q = '\\' := by simpa using backslash
    exact absurd quote (by decide)
  cases begins <;> simp [scan, isSeparator_quotes quote, quote, other]

theorem scan_escapes {m : Mode} {open_ : List Char} (begins : Begins m open_) (rest : List Char) :
    scan m open_ ('\\' :: rest) = scan (.escape none) open_ rest := by
  have separator : isSeparator '\\' = false := by decide
  have quote : isQuote '\\' = false := by decide
  cases begins <;> simp [scan, separator, quote]

/-- A piece is read into the open word. -/
theorem scan_piece {m : Mode} {open_ : List Char} (begins : Begins m open_) (p : Piece)
    (rest : List Char) :
    scan m open_ (p.written ++ rest) = scan .word (p.read.reverse ++ open_) rest := by
  cases p with
  | char c bare =>
    simp only [isBare, Bool.and_eq_true, Bool.not_eq_true', bne_iff_ne, ne_eq] at bare
    obtain ⟨⟨separator, quote⟩, backslash⟩ := bare
    cases begins <;> simp [Piece.written, Piece.read, scan, separator, quote, backslash]
  | escaped c =>
    rw [Piece.written, List.cons_append, scan_escapes begins, List.singleton_append, scan]
    rfl
  | single cs closed =>
    rw [Piece.written, List.cons_append, scan_opens begins isQuote_apostrophe, List.append_assoc,
      scan_single closed, List.singleton_append, scan, if_pos (by decide)]
    rfl
  | double parts =>
    rw [Piece.written, List.cons_append, scan_opens begins isQuote_mark, List.append_assoc,
      scan_double, List.singleton_append, scan, if_pos (by decide)]
    rfl

theorem scan_separator {c : Char} (separates : isSeparator c = true) (rest : List Char) :
    scan .gap [] (c :: rest) = scan .gap [] rest := by
  rw [scan, if_pos separates]

/-- What is read from a line: the first run of pieces is added to the open word, if there is one. -/
theorem scan_written_runs (items run : List Item) (runs : List (List Item))
    (cut : items.splitOnP Item.separates = run :: runs) :
    scan .gap [] (written items) = .ok (wordsAmong (run :: runs)) ∧
      ∀ open_, scan .word open_ (written items) =
        .ok ((open_.reverse ++ run.flatMap Item.read) :: wordsAmong runs) := by
  induction items generalizing run runs with
  | nil =>
    obtain ⟨rfl, rfl⟩ := List.cons.inj (List.splitOnP_nil.symm.trans cut)
    exact ⟨rfl, fun open_ => by simp [written, scan, wordsAmong]⟩
  | cons item items ih =>
    cases later : items.splitOnP Item.separates with
    | nil => exact absurd later (List.splitOnP_ne_nil _ _)
    | cons next runs' =>
      obtain ⟨fromGap, fromWord⟩ := ih next runs' later
      rw [List.splitOnP_cons_eq_if_modifyHead, later] at cut
      rw [written, List.flatMap_cons, ← written]
      cases item with
      | separator c separates =>
        rw [if_pos (by rfl)] at cut
        obtain ⟨rfl, rfl⟩ := List.cons.inj cut
        constructor
        · exact (scan_separator separates (written items)).trans fromGap
        · intro open_
          rw [Item.written, List.singleton_append, scan, if_pos separates, fromGap]
          simp [Functor.map, Except.map, List.flatMap_nil]
      | piece p =>
        rw [if_neg (by exact Bool.false_ne_true), List.modifyHead_cons] at cut
        obtain ⟨rfl, rfl⟩ := List.cons.inj cut
        constructor
        · rw [Item.written, scan_piece .gap, fromWord]
          simp [wordsAmong, Item.read]
        · intro open_
          rw [Item.written, scan_piece (.word open_), fromWord]
          simp [Item.read]

theorem scan_written (items : List Item) :
    scan .gap [] (written items) = .ok (wordsOf items) := by
  rw [wordsOf]
  cases cut : items.splitOnP Item.separates with
  | nil => exact absurd cut (List.splitOnP_ne_nil _ _)
  | cons run runs => exact (scan_written_runs items run runs cut).1

theorem scan_cutShort {f : Fault} {rest : List Char} (short : CutShort f rest) {m : Mode}
    {open_ : List Char} (begins : Begins m open_) : scan m open_ rest = .error f := by
  cases short with
  | single cs closed =>
    rw [scan_opens begins isQuote_apostrophe, ← List.append_nil cs, scan_single closed, scan]
  | double parts =>
    rw [scan_opens begins isQuote_mark, ← List.append_nil (parts.flatMap _), scan_double, scan]
  | escape => rw [scan_escapes begins, scan]
  | escapeInQuote parts =>
    rw [scan_opens begins isQuote_mark, scan_double, scan, if_neg (by decide), if_pos (by decide),
      scan]

theorem scan_endsOpen {f : Fault} {rest : List Char} (short : CutShort f rest) (items : List Item)
    {m : Mode} {open_ : List Char} (begins : Begins m open_) :
    scan m open_ (written items ++ rest) = .error f := by
  induction items generalizing m open_ with
  | nil => exact scan_cutShort short begins
  | cons item items ih =>
    rw [written, List.flatMap_cons, ← written, List.append_assoc]
    cases item with
    | separator c separates =>
      cases begins with
      | gap => exact (scan_separator separates _).trans (ih .gap)
      | word open_ =>
        rw [Item.written, List.singleton_append, scan, if_pos separates, ih .gap]
        rfl
    | piece p => rw [Item.written, scan_piece begins, ih (.word _)]

/-! ## All lines -/

/-- A text between double quotes goes on up to the quote that closes it, to its end, or to a
backslash with nothing behind it. -/
theorem inner_stops (cs : List Char) : ∃ (parts : List Inner) (rest : List Char),
    cs = parts.flatMap Inner.written ++ rest ∧
      (rest = [] ∨ rest = ['\\'] ∨ ∃ after, rest = '\x22' :: after) :=
  match cs with
  | [] => ⟨[], [], rfl, .inl rfl⟩
  | c :: cs => by
    by_cases closes : c = '\x22'
    · exact ⟨[], c :: cs, rfl, .inr (.inr ⟨cs, by rw [closes]⟩)⟩
    by_cases escapes : c = '\\'
    · cases cs with
      | nil => exact ⟨[], [c], rfl, .inr (.inl (by rw [escapes]))⟩
      | cons d cs =>
        obtain ⟨parts, rest, made, stops⟩ := inner_stops cs
        exact ⟨.escaped d :: parts, rest, by simp [Inner.written, made, escapes], stops⟩
    · obtain ⟨parts, rest, made, stops⟩ := inner_stops cs
      exact ⟨.char c ⟨closes, escapes⟩ :: parts, rest, by simp [Inner.written, made], stops⟩

/-- A whole line, or one that is cut short. -/
def Splits (cs : List Char) : Prop :=
  (∃ items, cs = written items) ∨ ∃ items rest f, cs = written items ++ rest ∧ CutShort f rest

theorem Splits.after {cs : List Char} (splits : Splits cs) (item : Item) :
    Splits (item.written ++ cs) := by
  rcases splits with ⟨items, rfl⟩ | ⟨items, rest, f, rfl, short⟩
  · exact .inl ⟨item :: items, rfl⟩
  · exact .inr ⟨item :: items, rest, f, by simp [written], short⟩

theorem Splits.of_cutShort {f : Fault} {rest : List Char} (short : CutShort f rest) :
    Splits rest := .inr ⟨[], rest, f, rfl, short⟩

theorem splits (cs : List Char) : Splits cs :=
  match cs with
  | [] => .inl ⟨[], rfl⟩
  | c :: cs => by
    by_cases separator : isSeparator c = true
    · exact (splits cs).after (.separator c separator)
    by_cases apostrophe : c = '\x27'
    · by_cases closes : '\x27' ∈ cs
      · obtain ⟨inside, rest, made, none_⟩ := List.eq_append_cons_of_mem closes
        have shorter : rest.length < cs.length := by simp [made]; omega
        have whole := (splits rest).after (.piece (.single inside none_))
        rw [apostrophe, made]
        simpa [Item.written, Piece.written] using whole
      · rw [apostrophe]
        exact .of_cutShort (.single cs closes)
    by_cases mark : c = '\x22'
    · rw [mark]
      obtain ⟨parts, rest, made, none_ | backslash | ⟨after, closes⟩⟩ := inner_stops cs
      · rw [made, none_, List.append_nil]
        exact .of_cutShort (.double parts)
      · rw [made, backslash]
        exact .of_cutShort (.escapeInQuote parts)
      · have shorter : after.length < cs.length := by simp [made, closes]; omega
        have whole := (splits after).after (.piece (.double parts))
        rw [made, closes]
        simpa [Item.written, Piece.written] using whole
    by_cases backslash : c = '\\'
    · rw [backslash]
      cases cs with
      | nil => exact .of_cutShort .escape
      | cons d cs => exact (splits cs).after (.piece (.escaped d))
    · have bare : isBare c = true := by
        simp [isBare, isQuote, separator, apostrophe, mark, backslash]
      exact (splits cs).after (.piece (.char c bare))
  termination_by cs.length
  decreasing_by all_goals simp only [List.length_cons]; omega

variable {line : String} {f : Fault} {ws : List String}

theorem split?_eq_ok : split? line = .ok ws ↔
    ∃ items, line.toList = written items ∧ ws = (wordsOf items).map String.ofList := by
  unfold split?
  rcases splits line.toList with ⟨items, whole⟩ | ⟨items, rest, f, cut, short⟩
  · rw [whole, scan_written]
    constructor
    · intro done
      exact ⟨items, rfl, (Except.ok.inj done).symm⟩
    · rintro ⟨items', same, rfl⟩
      have words := scan_written items'
      rw [← same, scan_written] at words
      rw [Except.ok.inj words]
      rfl
  · constructor
    · intro done
      rw [cut, scan_endsOpen short items .gap] at done
      cases done
    · rintro ⟨items', same, -⟩
      have words := scan_written items'
      rw [← same, cut, scan_endsOpen short items .gap] at words
      cases words

theorem split?_eq_error : split? line = .error f ↔ EndsOpen f line := by
  unfold split?
  constructor
  · intro failed
    rcases splits line.toList with ⟨items, whole⟩ | ⟨items, rest, f', cut, short⟩
    · rw [whole, scan_written] at failed
      cases failed
    · rw [cut, scan_endsOpen short items .gap] at failed
      cases failed
      exact ⟨items, rest, cut, short⟩
  · rintro ⟨items, rest, cut, short⟩
    rw [cut, scan_endsOpen short items .gap]
    rfl

/-! ## Faults -/

theorem isFault_iff : isFault ws = true ↔
    ∃ first second, ws = [first, second] ∧ faultMark.toList <+: second.toList := by
  unfold isFault startsWith
  constructor
  · intro taken
    split at taken
    · next first second => exact ⟨first, second, rfl, List.isPrefixOf_iff_prefix.mp taken⟩
    · cases taken
  · rintro ⟨first, second, rfl, marked⟩
    exact List.isPrefixOf_iff_prefix.mpr marked

theorem isFault_told (text reason : String) :
    isFault [text, faultMark ++ ":" ++ reason] = true := by
  refine isFault_iff.mpr ⟨text, _, rfl, ?_⟩
  rw [String.append_assoc, String.toList_append]
  exact List.prefix_append _ _

/-- A line that ends inside a quote or behind a backslash is told by itself and its fault, which is
taken for one; a line that does not has its words, and these are taken for a fault exactly if they
are two and the second one begins with the mark of faults. -/
theorem isFault_split_iff (line : String) :
    (∀ f, EndsOpen f line → split line = [trim line, faultMark ++ ":" ++ f.message]) ∧
    ((∀ f, ¬ EndsOpen f line) → ∃ items, line.toList = written items ∧
      split line = (wordsOf items).map String.ofList) ∧
    (isFault (split line) = true ↔ (∃ f, EndsOpen f line) ∨
      ∃ items first second, line.toList = written items ∧ wordsOf items = [first, second] ∧
        faultMark.toList <+: second) := by
  cases read : split? line with
  | error f =>
    have told : split line = [trim line, faultMark ++ ":" ++ f.message] := by rw [split, read]
    have open_ : EndsOpen f line := split?_eq_error.mp read
    refine ⟨fun g ends => ?_, fun whole => absurd open_ (whole f), ?_⟩
    · cases read.symm.trans (split?_eq_error.mpr ends)
      exact told
    · rw [told, isFault_told]
      exact ⟨fun _ => .inl ⟨f, open_⟩, fun _ => rfl⟩
  | ok ws =>
    have told : split line = ws := by rw [split, read]
    obtain ⟨items, whole, rfl⟩ := split?_eq_ok.mp read
    have closed (f : Fault) : ¬ EndsOpen f line := by
      intro ends
      cases read.symm.trans (split?_eq_error.mpr ends)
    refine ⟨fun f ends => absurd ends (closed f), fun _ => ⟨items, whole, told⟩, ?_⟩
    rw [told, isFault_iff]
    constructor
    · rintro ⟨first, second, two, marked⟩
      have inverse : String.toList ∘ String.ofList = id := funext fun _ => String.toList_ofList
      have chars := congrArg (List.map String.toList) two
      rw [List.map_map, inverse, List.map_id] at chars
      exact .inr ⟨items, first.toList, second.toList, whole, chars, marked⟩
    · rintro (⟨f, ends⟩ | ⟨items', first, second, whole', two, marked⟩)
      · exact absurd ends (closed f)
      · have same := split?_eq_ok.mpr ⟨items', whole', rfl⟩
        rw [Except.ok.inj (read.symm.trans same), two]
        exact ⟨_, _, rfl, by rwa [String.toList_ofList]⟩

/-- Two words, the second of which begins with the mark, are taken for a fault. -/
theorem marked_word_taken :
    ¬ ∀ line, isFault (split line) = true ↔ ∃ f, EndsOpen f line := by
  intro exact_
  have taken : isFault (split "a #parse-error") = true := by decide +kernel
  obtain ⟨f, ends⟩ := (exact_ "a #parse-error").mp taken
  have read : split? "a #parse-error" = .ok ["a", "#parse-error"] := by decide +kernel
  cases read.symm.trans (split?_eq_error.mpr ends)

end NestShell.Text.Words

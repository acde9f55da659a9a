import NestShell.Proofs.Options.Composition
import NestShell.Proofs.Options.Schema

/-!
# Written options are read back

Switches, flags with values and positional tokens can be written in many ways: with short or long
forms, with switches in one cluster, with values joined to a form or in a token of their own.
However they are written, reading gives them back, also where a value looks like a flag.
-/

namespace NestShell.Options

open NestShell.Text NestShell.Code

/-- What tokens can say. -/
inductive Item where
  | switch (f : Flag)
  | value (f : Flag) (v : String)
  | positional (token : String)

namespace Item

/-- The binding that the item makes. -/
def binding? : Item → Option (String × Value)
  | .switch f => some (f.key, .bool true)
  | .value f v => some (f.key, .str v)
  | .positional _ => none

def positional? : Item → Option String
  | .positional t => some t
  | _ => none

/-- The item after what was read before it. -/
def read (p : Parsed) : Item → Parsed
  | .switch f => p.set f (.bool true)
  | .value f v => p.set f (.str v)
  | .positional t => p.addArg t

end Item

/-- The bindings of items, one after another. -/
def bindings (items : List Item) : List (String × Value) := items.filterMap Item.binding?

def positionals (items : List Item) : List String := items.filterMap Item.positional?

/-! ## Ways of writing -/

/-- A flag of the schema that is given alone. -/
structure Switch (s : Schema) (f : Flag) : Prop where
  member : f ∈ s.flags
  plain : f.asksHelp = false
  alone : f.takesValue = false

/-- A flag of the schema that is given with a value. -/
structure Valued (s : Schema) (f : Flag) : Prop where
  member : f ∈ s.flags
  plain : f.asksHelp = false
  takes : f.takesValue = true

/-- Items written as letters of one token; the value of the last one may need the next token. -/
inductive Cluster (s : Schema) : List Item → List Char → List String → Prop
  | switch {f : Flag} {c : Char} :
      Switch s f → f.short = some c → Cluster s [.switch f] [c] []
  | cons {f : Flag} {c : Char} {items : List Item} {letters : List Char} {next : List String} :
      Switch s f → f.short = some c → Cluster s items letters next →
      Cluster s (.switch f :: items) (c :: letters) next
  | glued {f : Flag} {c : Char} {v : String} :
      Valued s f → f.short = some c → v ≠ "" → Cluster s [.value f v] (c :: v.toList) []
  | next {f : Flag} {c : Char} {v : String} :
      Valued s f → f.short = some c → Cluster s [.value f v] [c] [v]

/-- Tokens that are no flags by their form. -/
def IsPositional (token : String) : Prop :=
  token = "-" ∨ token.toList.head? ≠ some '-' ∨ isNegativeNumber token = true

/-- The tokens are a way of writing the items. -/
inductive Written (s : Schema) : List Item → List String → Prop
  | nil : Written s [] []
  | positional {items : List Item} {ts : List String} {t : String} :
      IsPositional t → Written s items ts → Written s (.positional t :: items) (t :: ts)
  | long {items : List Item} {ts : List String} {f : Flag} {n : String} :
      Switch s f → f.longForm? = some n → Written s items ts →
      Written s (.switch f :: items) (Flag.longToken n :: ts)
  | joined {items : List Item} {ts : List String} {f : Flag} {n v : String} :
      Valued s f → f.longForm? = some n → Written s items ts →
      Written s (.value f v :: items) ((Flag.longToken n ++ "=" ++ v) :: ts)
  | next {items : List Item} {ts : List String} {f : Flag} {n v : String} :
      Valued s f → f.longForm? = some n → Written s items ts →
      Written s (.value f v :: items) (Flag.longToken n :: v :: ts)
  | cluster {items others : List Item} {letters : List Char} {next ts : List String} :
      Cluster s items letters next → Written s others ts →
      Written s (items ++ others) (("-" ++ String.ofList letters) :: (next ++ ts))

/-- What may stand behind the items: nothing, or the end of the flags and tokens of any form. -/
def ending : Option (List String) → List String
  | none => []
  | some rest => "--" :: rest

/-! ## Single tokens -/

section Tokens

variable {s : Schema} {p : Parsed} {ts : List String} {n v token : String} {c : Char}
  {cs rest : List Char}

theorem span_loop (q : Char → Bool) (acc : List Char) :
    List.span.loop q cs acc = (acc.reverse ++ cs.takeWhile q, cs.dropWhile q) := by
  induction cs generalizing acc with
  | nil => simp [List.span.loop]
  | cons d ds ih => cases holds : q d <;> simp [List.span.loop, holds, ih]

theorem all_others (h : c ∉ cs) : ∀ d ∈ cs, (d != c) = true :=
  fun _ member => bne_iff_ne.mpr fun same => h (same ▸ member)

theorem cutAt_of_not_mem (h : c ∉ cs) : cutAt c cs = none := by
  rw [cutAt, List.span, span_loop, List.dropWhile_eq_nil_iff.mpr (all_others h)]

theorem cutAt_append (h : c ∉ cs) : cutAt c (cs ++ c :: rest) = some (cs, rest) := by
  rw [cutAt, List.span, span_loop, List.dropWhile_append_of_pos (all_others h),
    List.takeWhile_append_of_pos (all_others h), List.dropWhile_cons_of_neg (by simp),
    List.takeWhile_cons_of_neg (by simp), List.append_nil]
  rfl

theorem shape_dashes (letters : token.toList = '-' :: '-' :: cs) (more : cs ≠ []) :
    shape token = match cutAt '=' cs with
      | some (name, value) => .long (String.ofList name) (some (String.ofList value))
      | none => .long (String.ofList cs) none := by
  unfold shape
  rw [letters]
  cases cs with
  | nil => exact absurd rfl more
  | cons d ds => rfl

theorem shape_long (whole : n ≠ "") (h : '=' ∉ n.toList) :
    shape (Flag.longToken n) = .long n none := by
  have letters : (Flag.longToken n).toList = '-' :: '-' :: n.toList := String.toList_append
  rw [shape_dashes letters (mt String.toList_eq_nil_iff.mp whole), cutAt_of_not_mem h]
  dsimp only
  rw [String.ofList_toList]

theorem shape_joined (h : '=' ∉ n.toList) :
    shape (Flag.longToken n ++ "=" ++ v) = .long n (some v) := by
  have letters : (Flag.longToken n ++ "=" ++ v).toList =
      '-' :: '-' :: (n.toList ++ '=' :: v.toList) := by
    simp [Flag.longToken]
  rw [shape_dashes letters (by simp), cutAt_append h]
  dsimp only
  rw [String.ofList_toList, String.ofList_toList]

theorem shape_cluster (letters : token.toList = '-' :: c :: cs) (dash : c ≠ '-')
    (number : isNegativeNumber token = false) : shape token = .cluster (c :: cs) := by
  unfold shape
  rw [letters, number]
  split <;> simp_all

theorem isNegativeNumber_letters (letters : token.toList = '-' :: c :: cs)
    (h : isDecimalDigit c = false) : isNegativeNumber token = false := by
  have none (ds : List Char) : isDecimal (c :: ds) = false := by simp [isDecimal, h]
  unfold isNegativeNumber
  rw [letters]
  cases cs with
  | nil => simp [isDecimal, h]
  | cons d ds => simp [none]

theorem shape_positional (h : IsPositional token) : shape token = .positional := by
  rcases h with rfl | other | number
  · rfl
  · unfold shape
    split <;> simp_all
  · -- A number has one dash only, since the second one would be no digit.
    have digit (cs : List Char) : token.toList ≠ '-' :: '-' :: cs := fun letters =>
      Bool.false_ne_true ((isNegativeNumber_letters letters (by decide +kernel)).symm.trans number)
    unfold shape
    split <;> simp_all

theorem readToken_positional (h : IsPositional token) :
    readToken s token p ts = .ok (.more (p.addArg token) ts) := by
  rw [readToken, shape_positional h]

theorem readToken_long (whole : n ≠ "") (h : '=' ∉ n.toList) :
    readToken s (Flag.longToken n) p ts = readLong s (Flag.longToken n) n none p ts := by
  rw [readToken, shape_long whole h]

theorem readToken_inline (h : '=' ∉ n.toList) :
    readToken s (Flag.longToken n ++ "=" ++ v) p ts =
      readLong s (Flag.longToken n ++ "=" ++ v) n (some v) p ts := by
  rw [readToken, shape_joined h]

theorem readToken_cluster (letters : token.toList = '-' :: c :: cs) (dash : c ≠ '-')
    (number : isNegativeNumber token = false) :
    readToken s token p ts = readCluster s (c :: cs) p ts := by
  rw [readToken, shape_cluster letters dash number]

end Tokens

/-! ## All tokens -/

/-- An accepted schema in whose flags nothing can be mistaken: their keys differ, and no form is
read as a number or cut at an equals sign. The help flags are left out of account. -/
structure Legible (s : Schema) : Prop where
  accepted : Accepted s
  keys : ((s.flags.filter (!·.asksHelp)).map Flag.key).Nodup
  letters : ∀ f ∈ s.flags, f.asksHelp = false → ∀ c, f.short = some c → isDecimalDigit c = false
  names : ∀ f ∈ s.flags, f.asksHelp = false → ∀ n, f.longForm? = some n → '=' ∉ n.toList

section Reading

variable {s : Schema} {items : List Item} {letters : List Char} {next ts rest : List String}

theorem Cluster.first (h : Cluster s items letters next) :
    ∃ f ∈ s.flags, f.asksHelp = false ∧ ∃ c cs, f.short = some c ∧ letters = c :: cs := by
  cases h with
  | switch flag short => exact ⟨_, flag.member, flag.plain, _, _, short, rfl⟩
  | cons flag short _ => exact ⟨_, flag.member, flag.plain, _, _, short, rfl⟩
  | glued flag short _ => exact ⟨_, flag.member, flag.plain, _, _, short, rfl⟩
  | next flag short => exact ⟨_, flag.member, flag.plain, _, _, short, rfl⟩

theorem readCluster_written (accepted : Accepted s) (h : Cluster s items letters next)
    (p : Parsed) (ts : List String) :
    readCluster s letters p (next ++ ts) = .ok (.more (items.foldl Item.read p) ts) := by
  induction h generalizing p with
  | switch flag short =>
    rw [readCluster_switch (accepted.findShort? flag.member short) flag.plain flag.alone,
      readCluster]
    rfl
  | cons flag short _ ih =>
    rw [readCluster_switch (accepted.findShort? flag.member short) flag.plain flag.alone]
    exact ih _
  | @glued f c v flag short some_ =>
    rw [readCluster_glued (accepted.findShort? flag.member short) flag.plain flag.takes
      (mt String.toList_eq_nil_iff.mp some_), String.ofList_toList]
    rfl
  | next flag short =>
    rw [readCluster_next (accepted.findShort? flag.member short) flag.plain flag.takes]
    rfl

/-- Each token that is written for an item is read as this item, and nothing of the next token is
taken but a value that was written there. -/
theorem course_written (legible : Legible s) (written : Written s items ts) (p : Parsed)
    (rest : List String) :
    course s p (ts ++ rest) = course s (items.foldl Item.read p) rest := by
  -- By the way of writing: each token, with a value behind it, is read, and the rest follows.
  induction written generalizing p with
  | nil => rfl
  | positional form _ ih =>
    rw [List.cons_append, course_more (readToken_positional form)]
    exact ih _
  | long flag long _ ih =>
    have cut := legible.names _ flag.member flag.plain _ long
    have found := legible.accepted.findLong? flag.member long
    rw [List.cons_append, course_more ((readToken_long (Flag.longForm?_ne long) cut).trans
      (readLong_switch found flag.plain flag.alone))]
    exact ih _
  | joined flag long _ ih =>
    have cut := legible.names _ flag.member flag.plain _ long
    have found := legible.accepted.findLong? flag.member long
    rw [List.cons_append, course_more ((readToken_inline cut).trans
      (readLong_inline found flag.plain flag.takes))]
    exact ih _
  | next flag long _ ih =>
    have cut := legible.names _ flag.member flag.plain _ long
    have found := legible.accepted.findLong? flag.member long
    rw [List.cons_append, course_more ((readToken_long (Flag.longForm?_ne long) cut).trans
      (readLong_next found flag.plain flag.takes))]
    exact ih _
  | @cluster items others letters next ts cluster _ ih =>
    obtain ⟨f, member, plain, c, cs, short, first⟩ := cluster.first
    have chars : ("-" ++ String.ofList letters).toList = '-' :: c :: cs := by simp [first]
    have dash := (legible.accepted.made member).short_ne short
    have number := isNegativeNumber_letters chars (legible.letters f member plain c short)
    have read := readCluster_written legible.accepted cluster p (ts ++ rest)
    rw [first] at read
    rw [List.cons_append, List.append_assoc,
      course_more ((readToken_cluster chars dash number).trans read), List.foldl_append]
    exact ih _

end Reading

/-! ## What was read -/

section Items

variable (items : List Item) (p : Parsed)

theorem args_read : (items.foldl Item.read p).args = p.args ++ positionals items := by
  induction items generalizing p with
  | nil => exact (List.append_nil _).symm
  | cons i items ih =>
    rw [List.foldl_cons, ih]
    cases i <;>
      simp [positionals, List.filterMap_cons, Item.positional?, Item.read, Parsed.set,
        Parsed.addArg]

theorem values_read (k : String) : (items.foldl Item.read p).values.get? k =
    ((bindings items).reverse.lookup k).or (p.values.get? k) := by
  induction items generalizing p with
  | nil => rfl
  | cons i items ih =>
    rw [List.foldl_cons, ih]
    cases i with
    | positional t => rfl
    | switch f | value f v =>
      simp only [bindings, List.filterMap_cons, Item.binding?, Item.read, Parsed.get?_set,
        List.reverse_cons, List.lookup_append, Table.lookup_cons, Option.or_assoc]
      split <;> rfl

theorem given_read (k : String) : k ∈ (items.foldl Item.read p).given ↔
    k ∈ p.given ∨ k ∈ (bindings items).map (·.1) := by
  induction items generalizing p with
  | nil => simp [bindings]
  | cons i items ih =>
    rw [List.foldl_cons, ih]
    cases i with
    | positional t => rfl
    | switch f | value f v =>
      simp only [bindings, List.filterMap_cons, Item.binding?, Item.read, Parsed.mem_given_set,
        List.map_cons, List.mem_cons, or_assoc]

end Items

/-- Without flags only positional tokens can be written. -/
theorem Written.of_empty {s : Schema} {items : List Item} {ts : List String}
    (written : Written s items ts) (empty : s.isEmpty = true) :
    ts = positionals items ∧ bindings items = [] := by
  have none (f : Flag) : f ∉ s.flags := by simp [List.isEmpty_iff.mp empty]
  induction written with
  | nil => exact ⟨rfl, rfl⟩
  | positional _ _ ih => exact ⟨congrArg _ ih.1, ih.2⟩
  | long flag | joined flag | next flag => exact absurd flag.member (none _)
  | cluster cluster =>
    obtain ⟨f, member, -⟩ := cluster.first
    exact absurd member (none f)

/-- What is positional behind the items. Without flags nothing ends them, and `--` is positional. -/
def remainder (s : Schema) : Option (List String) → List String
  | none => []
  | some rest => if s.isEmpty then "--" :: rest else rest

theorem start_get? {s : Schema} (legible : Legible s) {f : Flag} (member : f ∈ s.flags)
    (plain : f.asksHelp = false) : (Parsed.start s).values.get? f.key = some f.initial := by
  obtain ⟨before, after, split⟩ := List.append_of_mem member
  refine Schema.initials_get? split plain fun g behind plain' same => ?_
  have keys := legible.keys
  rw [split, List.filter_append, List.filter_cons_of_pos (by simp [plain]), List.map_append,
    List.map_cons, List.nodup_append, List.nodup_cons] at keys
  exact keys.2.1.1 (same ▸ List.mem_map_of_mem (List.mem_filter.mpr ⟨behind, by simp [plain']⟩))

theorem course_ending {s : Schema} (flags : s.isEmpty = false) (p : Parsed)
    (tail : Option (List String)) :
    (course s p (ending tail)).map Step.parsed =
      .ok { p with args := p.args ++ remainder s tail } := by
  cases tail with
  | none =>
    rw [ending, course, remainder, List.append_nil]
    rfl
  | some rest =>
    rw [ending, course_cons, remainder, flags]
    rfl

/-- Items are read back however they are written: each flag has its last value, or else its initial
one, and the positional tokens stand in their order. -/
theorem parse_written {s : Schema} {items : List Item} {ts : List String} (legible : Legible s)
    (written : Written s items ts) (tail : Option (List String))
    (plain : ∀ t ∈ ts ++ ending tail, t ∉ s.helpTokens) :
    ∃ p, parse s (ts ++ ending tail) = .ok p ∧
      (∀ f ∈ s.flags, f.asksHelp = false →
        p.get? f.key = some (((bindings items).reverse.lookup f.key).getD f.initial)) ∧
      (∀ k, k ∈ p.given ↔ k ∈ (bindings items).map (·.1)) ∧
      p.args = positionals items ++ remainder s tail ∧ p.helpRequested = false := by
  cases flags : s.isEmpty with
  | true =>
    obtain ⟨same, none⟩ := written.of_empty flags
    refine ⟨_, parse_empty flags _, fun f member => ?_, fun k => ?_, ?_, rfl⟩
    · simp [List.isEmpty_iff.mp flags] at member
    · simp [none, Parsed.start]
    · cases tail <;> simp [same, ending, remainder, flags]
  | false =>
    have whole : course s (Parsed.start s) (ts ++ []) =
        .ok (.more (items.foldl Item.read (Parsed.start s)) []) := by
      rw [course_written legible written, course]
    have all : parse s (ts ++ ending tail) = .ok { items.foldl Item.read (Parsed.start s) with
        args := (items.foldl Item.read (Parsed.start s)).args ++ remainder s tail } := by
      rw [parse_eq flags plain, course_written legible written, course_ending flags]
    refine ⟨_, all, fun f member plain => ?_, fun k => ?_, ?_, course_request whole⟩
    · rw [Parsed.get?, (legible.accepted.made member).plainKey_key, values_read,
        start_get? legible member plain, Option.or_some]
    · rw [given_read]
      exact or_iff_right List.not_mem_nil
    · rw [args_read]
      rfl

theorem mem_searchFlags {f : Flag} :
    f ∈ searchFlags.flags ↔ f = verboseFlag ∨ f = filterFlag ∨ f = helpFlag := by
  simp [searchFlags, Schema.withHelp]

theorem searchFlags_legible : Legible searchFlags where
  accepted :=
    .add (.add (.add .empty ⟨some "v", some "verbose", "", _, _, by cbv⟩ (by cbv))
      ⟨some "f", some "filter", "", _, _, by cbv⟩ (by cbv))
      ⟨some "h", some "help", _, _, _, by cbv⟩ (by cbv)
  keys := by decide
  letters f member _ c short := by
    rcases mem_searchFlags.mp member with rfl | rfl | rfl <;> cases short <;> decide +kernel
  names f member _ n long := by
    rcases mem_searchFlags.mp member with rfl | rfl | rfl <;> cases long <;> decide

/-- A glued value and a value in the next token that look like flags, between positional tokens. -/
theorem flaglike_values_read :
    Legible searchFlags ∧
    Written searchFlags [.positional "-3", .switch verboseFlag, .value filterFlag "-x",
      .value filterFlag "--"] ["-3", "-vf-x", "--filter", "--"] ∧
    (∀ t ∈ ["-3", "-vf-x", "--filter", "--", "--", "-v"], t ∉ searchFlags.helpTokens) ∧
    ∃ p, parse searchFlags ["-3", "-vf-x", "--filter", "--", "--", "-v"] = .ok p ∧
      p.get? "verbose" = some (.bool true) ∧ p.get? "filter" = some (.str "--") ∧
      (∀ k, k ∈ p.given ↔ k = "verbose" ∨ k = "filter") ∧ p.args = ["-3", "-v"] ∧
      p.helpRequested = false := by
  have verbose : Switch searchFlags verboseFlag := ⟨mem_searchFlags.mpr (.inl rfl), rfl, rfl⟩
  have filter : Valued searchFlags filterFlag :=
    ⟨mem_searchFlags.mpr (.inr (.inl rfl)), rfl, rfl⟩
  have written : Written searchFlags [.positional "-3", .switch verboseFlag,
      .value filterFlag "-x", .value filterFlag "--"] ["-3", "-vf-x", "--filter", "--"] :=
    .positional (.inr (.inr (by decide +kernel)))
      (.cluster (.cons verbose rfl (.glued filter rfl (by decide))) (.next filter rfl .nil))
  have plain : ∀ t ∈ ["-3", "-vf-x", "--filter", "--", "--", "-v"],
      t ∉ searchFlags.helpTokens := by decide
  obtain ⟨p, read, values, given, args, help⟩ :=
    parse_written searchFlags_legible written (some ["-v"]) plain
  refine ⟨searchFlags_legible, written, plain, p, read, ?_, ?_, fun k => ?_, args, help⟩
  · exact values verboseFlag verbose.member rfl
  · exact values filterFlag filter.member rfl
  · have keys : (bindings [.positional "-3", .switch verboseFlag, .value filterFlag "-x",
        .value filterFlag "--"]).map (·.1) = ["verbose", "filter", "filter"] := by decide
    rw [given, keys]
    simp

/-- In a schema without flags `--` does not only stand before the tokens that it makes positional:
it is one of them. -/
theorem dashes_kept_without_flags :
    Legible {} ∧ Written {} [] [] ∧ (∀ t ∈ ending (some ["a"]), t ∉ Schema.helpTokens {}) ∧
    ¬ ∃ p, parse {} (ending (some ["a"])) = .ok p ∧ p.args = positionals [] ++ ["a"] := by
  refine ⟨⟨.empty, .nil, nofun, nofun⟩, .nil, by decide, ?_⟩
  rintro ⟨p, read, args⟩
  rw [parse_empty rfl] at read
  cases read
  exact absurd args (by decide)

end NestShell.Options

import NestShell.Options.Index
import NestShell.Proofs.Options.Composition

/-!
# Flags and the tables that find them

Flags are offered to an index one after another, and some of them are refused. Throughout, both
tables keep step with the list of flags: a flag is found by a form exactly when it is in the list
and has this form, and no two flags in the list have a form in common. What is refused changes
neither the list nor a table, though it may be refused for either of its forms. A schema to which
the same flags are added, and by which tokens are read, refuses and finds the same flags.
-/

namespace NestShell.Options

namespace Flag

variable {f g : Flag} {k : String}

theorem shortForm?_ne (short : f.shortForm? = some k) : k ≠ "" := by
  obtain ⟨c, -, rfl⟩ := Option.map_eq_some_iff.mp short
  exact fun empty => by simpa using congrArg String.toList empty

theorem longForm?_eq_some : f.longForm? = some k ↔ f.long = some k ∧ k ≠ "" := by
  simp [longForm?, Option.filter_eq_some_iff]

/-- The flags have a short form or a long form in common. -/
def Clashes (f g : Flag) : Prop :=
  ∃ k ≠ "", (f.shortForm? = some k ∧ g.shortForm? = some k) ∨ (f.long = some k ∧ g.long = some k)

theorem clashes_iff : f.Clashes g ↔ (∃ k, f.shortForm? = some k ∧ g.shortForm? = some k) ∨
    ∃ k, f.longForm? = some k ∧ g.longForm? = some k := by
  constructor
  · rintro ⟨k, form, short | ⟨own, same⟩⟩
    · exact .inl ⟨k, short⟩
    · exact .inr ⟨k, longForm?_eq_some.mpr ⟨own, form⟩, longForm?_eq_some.mpr ⟨same, form⟩⟩
  · rintro (⟨k, short⟩ | ⟨k, own, same⟩)
    · exact ⟨k, shortForm?_ne short.1, .inl short⟩
    · obtain ⟨long, form⟩ := longForm?_eq_some.mp own
      exact ⟨k, form, .inr ⟨long, (longForm?_eq_some.mp same).1⟩⟩

end Flag

namespace Index

variable {x y : Index} {f : Flag} {fault : SchemaFault}

/-! ## One flag -/

theorem refuseTaken_eq {α : Type} (form : Option α) (find? : Index → α → Option Flag)
    (fault : α → SchemaFault) (x : Index) : refuseTaken form find? fault x =
      match form.filter fun k => (find? x k).isSome with
      | some k => .error (fault k) x
      | none => .ok () x := by
  cases form with
  | none => rfl
  | some k =>
    change (if (find? x k).isSome then throw (fault k) else pure () :
      EStateM SchemaFault Index Unit) x = _
    rw [Option.filter_some]
    split <;> rfl

/-- The index with one more flag. -/
def entered (x : Index) (f : Flag) : Index :=
  ⟨x.flags ++ [f], enter f.shortForm? f x.shorts, enter f.longForm? f x.longs⟩

theorem add_eq (f : Flag) (x : Index) : add f x =
    match f.short.filter fun c => (x.findShort? c.toString).isSome,
        f.longForm?.filter fun n => (x.findLong? n).isSome with
    | some c, _ => .error (.duplicateShort c) x
    | none, some n => .error (.duplicateLong n) x
    | none, none => .ok () (x.entered f) := by
  have first := refuseTaken_eq f.short (fun x c => x.findShort? c.toString) .duplicateShort x
  have second := refuseTaken_eq f.longForm? findLong? .duplicateLong x
  -- The state is threaded by hand here and nowhere else: later proofs start from this equation.
  change EStateM.bind _ _ x = _
  unfold EStateM.bind
  rw [first]
  cases f.short.filter fun c => (x.findShort? c.toString).isSome with
  | some c => rfl
  | none =>
    change EStateM.bind _ _ x = _
    unfold EStateM.bind
    rw [second]
    cases f.longForm?.filter fun n => (x.findLong? n).isSome <;> rfl

/-- A flag that is refused has a form that a flag has already, and leaves all as it was. -/
theorem add_error (refused : add f x = .error fault y) : y = x ∧
    ((∃ c, f.short = some c ∧ fault = .duplicateShort c ∧
        (x.shorts.lookup c.toString).isSome = true) ∨
      ∃ n, f.longForm? = some n ∧ fault = .duplicateLong n ∧ (x.longs.lookup n).isSome = true) := by
  rw [add_eq] at refused
  split at refused
  · next short =>
    cases refused
    obtain ⟨own, taken⟩ := Option.filter_eq_some_iff.mp short
    exact ⟨rfl, .inl ⟨_, own, rfl, taken⟩⟩
  · next long =>
    cases refused
    obtain ⟨own, taken⟩ := Option.filter_eq_some_iff.mp long
    exact ⟨rfl, .inr ⟨_, own, rfl, taken⟩⟩
  · cases refused

theorem add_ok {u : Unit} (added : add f x = .ok u y) : y = x.entered f ∧
    (∀ k, f.shortForm? = some k → x.shorts.lookup k = none) ∧
      ∀ k, f.longForm? = some k → x.longs.lookup k = none := by
  rw [add_eq] at added
  split at added
  · cases added
  · cases added
  · next short long =>
    cases added
    refine ⟨rfl, fun k own => ?_, fun k own => ?_⟩
    · obtain ⟨c, letter, rfl⟩ := Option.map_eq_some_iff.mp own
      exact Option.not_isSome_iff_eq_none.mp (Option.filter_eq_none_iff.mp short c letter)
    · exact Option.not_isSome_iff_eq_none.mp (Option.filter_eq_none_iff.mp long k own)

/-! ## Tables that keep step -/

/-- Both tables find the flags of the list by their forms. -/
structure InStep (x : Index) : Prop where
  shorts : Table.Keyed Flag.shortForm? x.flags x.shorts
  longs : Table.Keyed Flag.longForm? x.flags x.longs

theorem keyed_enter {form : Flag → Option String} {fs : List Flag} {t : List (String × Flag)}
    (h : Table.Keyed form fs t) (free : ∀ k, form f = some k → t.lookup k = none) :
    Table.Keyed form (fs ++ [f]) (enter (form f) f t) := by
  cases own : form f with
  | none => exact h.concat_keyless own
  | some k => exact h.concat_set own (free k own)

namespace InStep

theorem empty : InStep {} := ⟨.nil, .nil⟩

theorem add {u : Unit} (h : InStep x) (added : Index.add f x = .ok u y) : InStep y := by
  obtain ⟨rfl, short, long⟩ := add_ok added
  exact ⟨keyed_enter h.shorts short, keyed_enter h.longs long⟩

theorem findLong?_eq_some (h : InStep x) {k : String} (form : k ≠ "") :
    x.findLong? k = some f ↔ f ∈ x.flags ∧ f.long = some k := by
  rw [Index.findLong?, h.longs.lookup_iff, Flag.longForm?_eq_some, and_iff_left form]

theorem refused_iff (h : InStep x) (f : Flag) :
    (∃ fault y, Index.add f x = .error fault y) ↔ ∃ g ∈ x.flags, f.Clashes g := by
  constructor
  · rintro ⟨fault, y, refused⟩
    rcases (add_error refused).2 with ⟨c, own, -, taken⟩ | ⟨n, own, -, taken⟩
    · obtain ⟨g, member, same⟩ := h.shorts.isSome_lookup.mp taken
      have short : f.shortForm? = some c.toString := by rw [Flag.shortForm?, own, Option.map_some]
      exact ⟨g, member, Flag.clashes_iff.mpr (.inl ⟨_, short, same⟩)⟩
    · obtain ⟨g, member, same⟩ := h.longs.isSome_lookup.mp taken
      exact ⟨g, member, Flag.clashes_iff.mpr (.inr ⟨n, own, same⟩)⟩
  · rintro ⟨g, member, clash⟩
    cases result : Index.add f x with
    | error fault y => exact ⟨fault, y, rfl⟩
    | ok u y =>
      obtain ⟨-, short, long⟩ := add_ok result
      rcases Flag.clashes_iff.mp clash with ⟨k, own, same⟩ | ⟨k, own, same⟩
      · exact absurd same (h.shorts.lookup_eq_none.mp (short k own) g member)
      · exact absurd same (h.longs.lookup_eq_none.mp (long k own) g member)

theorem apart (h : InStep x) : x.flags.Pairwise fun f g => ¬ f.Clashes g := by
  refine (h.shorts.apart.and h.longs.apart).imp fun ⟨short, long⟩ clash => ?_
  rcases Flag.clashes_iff.mp clash with ⟨k, own, same⟩ | ⟨k, own, same⟩
  · exact short k own same
  · exact long k own same

end InStep

/-! ## The schema of an index -/

/-- The schema by which tokens are read. -/
def schema (x : Index) : Schema := ⟨x.flags⟩

/-- What adding to the schema answers. -/
def answer : EStateM.Result SchemaFault Index Unit → Except SchemaFault Schema
  | .ok _ y => .ok y.schema
  | .error fault _ => .error fault

namespace InStep

theorem schema_findShort? (h : InStep x) (c : Char) :
    x.schema.findShort? c = x.findShort? c.toString := by
  rw [Index.findShort?, ← h.shorts.find?_eq, Schema.findShort?]
  congr 1
  funext g
  cases short : g.short with
  | none => simp [Flag.shortForm?, short]
  | some d => simp [Flag.shortForm?, short]

theorem schema_findLong? (h : InStep x) (n : String) : x.schema.findLong? n = x.findLong? n :=
  h.longs.find?_eq n

theorem schema_add (h : InStep x) (f : Flag) : x.schema.add f = answer (Index.add f x) := by
  rw [add_eq, Schema.add]
  simp only [h.schema_findShort?, h.schema_findLong?]
  generalize (f.short.filter fun c => (x.findShort? c.toString).isSome) = short
  generalize (f.longForm?.filter fun n => (x.findLong? n).isSome) = long
  rcases short with _ | c <;> rcases long with _ | n <;> rfl

end InStep

/-! ## Flags one after another -/

/-- An index to which flags were offered, and those of them that were not refused, in the order in
which they were added. -/
structure Offers where
  index : Index := {}
  added : List Flag := []

/-- Offers one more flag. What stands after it is what adding leaves, also where it is refused. -/
def Offers.next (o : Offers) (f : Flag) : Offers :=
  match add f o.index with
  | .ok _ y => ⟨y, o.added ++ [f]⟩
  | .error _ y => ⟨y, o.added⟩

/-- Offers flags to an empty index. -/
def offer (fs : List Flag) : Offers := fs.foldl Offers.next {}

/-- The schema after one more flag is offered. -/
def schemaAfter (s : Schema) (f : Flag) : Schema := (s.add f).toOption.getD s

/-- What holds whenever flags were offered. -/
structure Offers.Sound (fs : List Flag) (o : Offers) : Prop where
  inStep : InStep o.index
  flags : o.index.flags = o.added
  sublist : o.added.Sublist fs
  schema : fs.foldl schemaAfter {} = o.index.schema

namespace Offers.Sound

variable {fs : List Flag} {o : Offers}

theorem next (h : Sound fs o) (f : Flag) : Sound (fs ++ [f]) (o.next f) := by
  have step : (fs ++ [f]).foldl schemaAfter {} =
      (answer (add f o.index)).toOption.getD o.index.schema := by
    rw [List.foldl_append, h.schema, List.foldl_cons, List.foldl_nil, schemaAfter,
      h.inStep.schema_add]
  unfold Offers.next
  cases result : add f o.index with
  | ok u y =>
    rw [result] at step
    obtain ⟨rfl, -⟩ := add_ok result
    exact ⟨h.inStep.add result, congrArg (· ++ [f]) h.flags, h.sublist.append_right [f], step⟩
  | error fault y =>
    rw [result] at step
    obtain ⟨rfl, -⟩ := add_error result
    exact ⟨h.inStep, h.flags, h.sublist.trans (List.sublist_append_left fs [f]), step⟩

theorem offer (fs : List Flag) : Sound fs (offer fs) := by
  -- From the end: a further flag meets the index that all flags before it have left.
  induction fs using List.reverseRecOn with
  | nil => exact ⟨.empty, rfl, .slnil, rfl⟩
  | append_singleton fs f ih =>
    rw [Index.offer, List.foldl_append]
    exact ih.next f

end Offers.Sound

/-- After flags were offered, of which some were refused, a further flag is refused exactly when it
has a form in common with one that is there, and then the list and both tables stay as they are. A
flag is found by a form exactly when it is in the list and has this form; no two flags of the list
have a form in common, so it is the only one. The flags stand in the order in which they were added.
The schema with these flags refuses and finds the same. -/
theorem offered_in_step (fs : List Flag) :
    let x := (offer fs).index
    (∀ f fault y, add f x = .error fault y → y = x) ∧
    (∀ f, (∃ fault y, add f x = .error fault y) ↔ ∃ g ∈ x.flags, f.Clashes g) ∧
    (∀ k ≠ "", ∀ f, x.findShort? k = some f ↔ f ∈ x.flags ∧ f.shortForm? = some k) ∧
    (∀ k ≠ "", ∀ f, x.findLong? k = some f ↔ f ∈ x.flags ∧ f.long = some k) ∧
    x.flags.Pairwise (fun f g => ¬ f.Clashes g) ∧
    x.flags = (offer fs).added ∧ (offer fs).added.Sublist fs ∧
    fs.foldl schemaAfter {} = x.schema ∧
    (∀ f, x.schema.add f = answer (add f x)) ∧
    (∀ c, x.schema.findShort? c = x.findShort? c.toString) ∧
    ∀ n, x.schema.findLong? n = x.findLong? n := by
  have sound := Offers.Sound.offer fs
  have inStep := sound.inStep
  exact ⟨fun f fault y refused => (add_error refused).1, inStep.refused_iff,
    fun k _ f => inStep.shorts.lookup_iff k f, fun k form f => inStep.findLong?_eq_some form,
    inStep.apart, sound.flags, sound.sublist, sound.schema, inStep.schema_add,
    inStep.schema_findShort?, inStep.schema_findLong?⟩

/-- A flag whose short form is `verboseFlag`'s. -/
def veryFlag : Flag := { short := some 'v', long := some "very" }

/-- A flag whose long form is `filterFlag`'s. -/
def quietFlag : Flag := { short := some 'q', long := some "filter" }

/-- Two of the four are refused, each for one of its forms, and the other form is entered nowhere. -/
theorem clashing_offers_in_step :
    let x := (offer [verboseFlag, veryFlag, filterFlag, quietFlag]).index
    x = ⟨[verboseFlag, filterFlag], [("v", verboseFlag), ("f", filterFlag)],
      [("verbose", verboseFlag), ("filter", filterFlag)]⟩ ∧
    (∃ fault, add quietFlag x = .error fault x) ∧
    x.findShort? "v" = some verboseFlag ∧ x.findLong? "filter" = some filterFlag := by
  intro x
  have state : x = ⟨[verboseFlag, filterFlag], [("v", verboseFlag), ("f", filterFlag)],
      [("verbose", verboseFlag), ("filter", filterFlag)]⟩ := by cbv
  obtain ⟨unchanged, refused, short, long, -⟩ :=
    offered_in_step [verboseFlag, veryFlag, filterFlag, quietFlag]
  have first : verboseFlag ∈ x.flags := by simp [state]
  have last : filterFlag ∈ x.flags := by simp [state]
  have clash : quietFlag.Clashes filterFlag := ⟨"filter", by decide, .inr ⟨rfl, rfl⟩⟩
  obtain ⟨fault, y, refusal⟩ := (refused quietFlag).mpr ⟨filterFlag, last, clash⟩
  rw [unchanged quietFlag fault y refusal] at refusal
  exact ⟨state, ⟨fault, refusal⟩, (short "v" (by decide) verboseFlag).mpr ⟨first, rfl⟩,
    (long "filter" (by decide) filterFlag).mpr ⟨last, rfl⟩⟩

end Index

end NestShell.Options

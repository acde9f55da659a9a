import NestShell.Options.Parse
import NestShell.Proofs.Table

/-!
# Reading tokens one after another

A token is either read for itself, whatever follows it, or it names a flag that takes the next token
for its value. So tokens that follow others are read as if they stood alone: what was read before
is not read again, and only a flag that still wants its value takes the first of them.
-/

namespace NestShell.Options

open NestShell.Code

variable {s : Schema}

namespace Parsed

variable (p : Parsed) (f : Flag) (v : Value) (k : String)

theorem get?_set : (p.set f v).values.get? k = if k = f.key then some v else p.values.get? k :=
  p.values.get?_set f.key k v

theorem mem_given_set : k ∈ (p.set f v).given ↔ k ∈ p.given ∨ k = f.key := by
  unfold set
  dsimp only
  split
  · next known =>
    constructor
    · exact .inl
    · rintro (before | rfl)
      · exact before
      · exact List.contains_iff_mem.mp known
  · rw [List.mem_append, List.mem_singleton]

end Parsed

/-! ## One token -/

/-- The step with more tokens after those that it leaves. -/
def Step.followedBy (ys : List String) : Step → Step
  | .more p rest => .more p (rest ++ ys)
  | .stop p => .stop { p with args := p.args ++ ys }
  | .help p => .help p

theorem Step.followedBy_append (x : Step) (xs ys : List String) :
    x.followedBy (xs ++ ys) = (x.followedBy xs).followedBy ys := by
  cases x <;> simp [followedBy]

/-- Reading that takes none of the tokens that follow for a value. -/
structure Standalone (read : List String → Outcome) : Prop where
  eq : ∀ ts, read ts = (read []).map (Step.followedBy ts)
  complete : ∀ flag, read [] ≠ .error (.missingValue flag)

/-- Reading that gives the next token to a flag. -/
structure TakesNext (s : Schema) (read : List String → Outcome) (spelling : String) (f : Flag)
    (q : Parsed) : Prop where
  member : f ∈ s.flags
  spelled : spelling ∈ f.spellings
  plain : f.asksHelp = false
  takes : f.takesValue = true
  eq : ∀ ts, read ts = takeNext spelling f q ts

namespace Standalone

variable {read : List String → Outcome}

theorem fault (token : String) (h : ∀ ts, read ts = .error (.unknownOption token)) :
    Standalone read :=
  ⟨fun ts => by rw [h, h]; rfl, fun _ other => by rw [h] at other; cases other⟩

theorem help (p : Parsed) (h : ∀ ts, read ts = .ok (.help p)) : Standalone read :=
  ⟨fun ts => by rw [h, h]; rfl, fun _ other => by rw [h] at other; cases other⟩

theorem more (p : Parsed) (h : ∀ ts, read ts = .ok (.more p ts)) : Standalone read :=
  ⟨fun ts => by rw [h, h]; rfl, fun _ other => by rw [h] at other; cases other⟩

theorem stop (p : Parsed) (h : ∀ ts, read ts = .ok (.stop { p with args := p.args ++ ts })) :
    Standalone read :=
  ⟨fun ts => by simp [h, Except.map, Step.followedBy],
    fun _ other => by rw [h] at other; cases other⟩

end Standalone

theorem Flag.mem_spellings {f : Flag} {token : String} : token ∈ f.spellings ↔
    (∃ c, f.short = some c ∧ shortToken c = token) ∨
      ∃ n, f.longForm? = some n ∧ longToken n = token := by
  simp [spellings]

theorem Flag.longForm?_ne {f : Flag} {n : String} (long : f.longForm? = some n) : n ≠ "" := by
  simpa using (Option.filter_eq_some_iff.mp long).2

theorem Schema.findLong?_some {n : String} {f : Flag} (h : s.findLong? n = some f) :
    f ∈ s.flags ∧ f.longForm? = some n :=
  ⟨List.mem_of_find?_eq_some h, by simpa using List.find?_some h⟩

theorem Schema.findShort?_some {c : Char} {f : Flag} (h : s.findShort? c = some f) :
    f ∈ s.flags ∧ f.short = some c :=
  ⟨List.mem_of_find?_eq_some h, by simpa using List.find?_some h⟩

section Flags

variable {f : Flag} {token name v : String} {c : Char} {cs : List Char} {p : Parsed}
  {ts : List String}

theorem readLong_switch (found : s.findLong? name = some f) (plain : f.asksHelp = false)
    (switch : f.takesValue = false) :
    readLong s token name none p ts = .ok (.more (p.set f (.bool true)) ts) := by
  simp [readLong, found, plain, switch]

theorem readLong_inline (found : s.findLong? name = some f) (plain : f.asksHelp = false)
    (takes : f.takesValue = true) :
    readLong s token name (some v) p ts = .ok (.more (p.set f (.str v)) ts) := by
  simp [readLong, found, plain, takes]

theorem readLong_next (found : s.findLong? name = some f) (plain : f.asksHelp = false)
    (takes : f.takesValue = true) :
    readLong s token name none p ts = takeNext (Flag.longToken name) f p ts := by
  simp [readLong, found, plain, takes]

theorem readCluster_switch (found : s.findShort? c = some f) (plain : f.asksHelp = false)
    (switch : f.takesValue = false) :
    readCluster s (c :: cs) p ts = readCluster s cs (p.set f (.bool true)) ts := by
  simp [readCluster, found, plain, switch]

theorem readCluster_glued (found : s.findShort? c = some f) (plain : f.asksHelp = false)
    (takes : f.takesValue = true) (rest : cs ≠ []) :
    readCluster s (c :: cs) p ts = .ok (.more (p.set f (.str (String.ofList cs))) ts) := by
  cases cs with
  | nil => exact absurd rfl rest
  | cons d ds => simp [readCluster, found, plain, takes]

theorem readCluster_next (found : s.findShort? c = some f) (plain : f.asksHelp = false)
    (takes : f.takesValue = true) :
    readCluster s [c] p ts = takeNext (Flag.shortToken c) f p ts := by
  simp [readCluster, found, plain, takes]

end Flags

theorem readLong_cases (token name : String) (inline : Option String) (p : Parsed) :
    Standalone (readLong s token name inline p) ∨
      ∃ spelling f q, TakesNext s (readLong s token name inline p) spelling f q := by
  cases found : s.findLong? name with
  | none => exact .inl (.fault token fun ts => by simp [readLong, found])
  | some f =>
    obtain ⟨member, long⟩ := Schema.findLong?_some found
    cases plain : f.asksHelp with
    | true => exact .inl (.help p fun ts => by simp [readLong, found, plain])
    | false =>
      cases takes : f.takesValue with
      | false =>
        cases inline with
        | none => exact .inl (.more _ fun _ => readLong_switch found plain takes)
        | some v => exact .inl (.fault token fun ts => by simp [readLong, found, plain, takes])
      | true =>
        cases inline with
        | some v => exact .inl (.more _ fun _ => readLong_inline found plain takes)
        | none =>
          have spelled := Flag.mem_spellings.mpr (.inr ⟨name, long, rfl⟩)
          exact .inr ⟨_, f, p, member, spelled, plain, takes,
            fun _ => readLong_next found plain takes⟩

theorem readCluster_cases (letters : List Char) (p : Parsed) :
    Standalone (readCluster s letters p) ∨
      ∃ spelling f q, TakesNext s (readCluster s letters p) spelling f q := by
  induction letters generalizing p with
  | nil => exact .inl (.more p fun ts => by rw [readCluster])
  | cons c cs ih =>
    cases found : s.findShort? c with
    | none => exact .inl (.fault (Flag.shortToken c) fun ts => by simp [readCluster, found])
    | some f =>
      obtain ⟨member, short⟩ := Schema.findShort?_some found
      cases plain : f.asksHelp with
      | true => exact .inl (.help p fun ts => by simp [readCluster, found, plain])
      | false =>
        cases takes : f.takesValue with
        | false =>
          have next : readCluster s (c :: cs) p = readCluster s cs (p.set f (.bool true)) :=
            funext fun _ => readCluster_switch found plain takes
          rw [next]
          exact ih _
        | true =>
          cases cs with
          | cons d ds =>
            have rest := List.cons_ne_nil d ds
            exact .inl (.more _ fun _ => readCluster_glued found plain takes rest)
          | nil =>
            have spelled := Flag.mem_spellings.mpr (.inl ⟨c, short, rfl⟩)
            exact .inr ⟨_, f, p, member, spelled, plain, takes,
              fun _ => readCluster_next found plain takes⟩

theorem readToken_cases (token : String) (p : Parsed) :
    Standalone (readToken s token p) ∨
      ∃ spelling f q, TakesNext s (readToken s token p) spelling f q := by
  unfold readToken
  cases shape token with
  | terminator => exact .inl (.stop p fun _ => rfl)
  | long name inline => exact readLong_cases token name inline p
  | cluster letters => exact readCluster_cases letters p
  | positional => exact .inl (.more _ fun _ => rfl)

/-! ## All tokens -/

/-- How the reading of tokens ends: behind the last of them, at the end of the flags, or at a
request for help. -/
def course (s : Schema) (p : Parsed) : List String → Outcome
  | [] => .ok (.more p [])
  | t :: ts =>
    match _h : readToken s t p ts with
    | .ok (.more q rest) => course s q rest
    | other => other
termination_by ts => ts.length
decreasing_by
  have := readToken_length _h
  simp only [List.length_cons]
  omega

theorem course_nil (p : Parsed) : course s p [] = .ok (.more p []) := by
  rw [course]

theorem course_cons (token : String) (p : Parsed) (ts : List String) :
    course s p (token :: ts) = match readToken s token p ts with
      | .ok (.more q rest) => course s q rest
      | other => other := by
  rw [course]
  split <;> simp_all

theorem course_more {token : String} {p q : Parsed} {ts rest : List String}
    (read : readToken s token p ts = .ok (.more q rest)) :
    course s p (token :: ts) = course s q rest := by
  rw [course_cons, read]

/-- What the tokens say, wherever their reading ended. -/
def Step.parsed : Step → Parsed
  | .more p _ => p
  | .stop p => p
  | .help p => { p with helpRequested := true }

theorem readAll_eq (p : Parsed) (ts : List String) :
    readAll s p ts = (course s p ts).map Step.parsed := by
  fun_induction course s p ts with
  | case1 p => rw [readAll]; rfl
  | case2 p t ts q rest step ih =>
    rw [readAll]
    split <;> simp_all
  | case3 p t ts other =>
    rw [readAll]
    split <;> simp_all [Except.map, Step.parsed]

/-! ## Tokens after others -/

variable {p q : Parsed} {token : String} {xs ys ts rest : List String}

theorem readToken_append {x : Step} (read : readToken s token p ts = .ok x) :
    readToken s token p (ts ++ ys) = .ok (x.followedBy ys) := by
  rcases readToken_cases (s := s) token p with alone | ⟨spelling, f, q, next⟩
  · rw [alone.eq] at read ⊢
    cases first : readToken s token p [] with
    | error e =>
      rw [first] at read
      cases read
    | ok y =>
      rw [first] at read
      cases read
      exact congrArg Except.ok (y.followedBy_append ts ys)
  · rw [next.eq] at read ⊢
    cases ts with
    | nil => cases read
    | cons v rest =>
      cases read
      rfl

theorem readToken_fault {fault : Fault} (read : readToken s token p ts = .error fault) :
    (∃ t, fault = .unknownOption t ∧ ∀ ys, readToken s token p ys = .error fault) ∨
      ∃ spelling f q, fault = .missingValue spelling ∧ ts = [] ∧
        TakesNext s (readToken s token p) spelling f q := by
  rcases readToken_cases (s := s) token p with alone | ⟨spelling, f, q, next⟩
  · rw [alone.eq] at read
    cases first : readToken s token p [] with
    | ok y =>
      rw [first] at read
      cases read
    | error e =>
      rw [first] at read
      cases read
      cases fault with
      | unknownOption t => exact .inl ⟨t, rfl, fun ys => by rw [alone.eq, first]; rfl⟩
      | missingValue flag => exact absurd first (alone.complete flag)
  · rw [next.eq] at read
    cases ts with
    | nil =>
      cases read
      exact .inr ⟨spelling, f, q, rfl, rfl, next⟩
    | cons v rest => cases read

/-- What a token leaves was behind what it takes. -/
theorem readToken_more (read : readToken s token p ts = .ok (.more q rest)) :
    ∃ taken, ts = taken ++ rest ∧ readToken s token p taken = .ok (.more q []) := by
  rcases readToken_cases (s := s) token p with alone | ⟨spelling, f, _, next⟩
  · refine ⟨[], ?_⟩
    rw [alone.eq] at read
    cases first : readToken s token p [] with
    | error e =>
      rw [first] at read
      cases read
    | ok x =>
      rw [first] at read
      cases x with
      | more r left =>
        obtain rfl := List.length_eq_zero_iff.mp (Nat.le_zero.mp (readToken_length first))
        cases read
        exact ⟨rfl, rfl⟩
      | _ => cases read
  · rw [next.eq] at read
    cases ts with
    | nil => cases read
    | cons v left =>
      cases read
      exact ⟨[v], rfl, next.eq [v]⟩

/-- How reading goes on with more tokens. -/
def Step.resume (s : Schema) (ys : List String) : Step → Outcome
  | .more q _ => course s q ys
  | x => .ok (x.followedBy ys)

/-- What a step has read, but for a request for help. -/
def Step.state : Step → Parsed
  | .more p _ => p
  | .stop p => p
  | .help p => p

theorem takeNext_request {spelling : String} {f : Flag} {x : Step}
    (read : takeNext spelling f p ts = .ok x) : x.state.helpRequested = p.helpRequested := by
  cases ts with
  | nil => cases read
  | cons v rest =>
    cases read
    rfl

theorem readLong_request {name : String} {inline : Option String} {x : Step}
    (read : readLong s token name inline p ts = .ok x) :
    x.state.helpRequested = p.helpRequested := by
  revert read
  fun_cases readLong s token name inline p ts with
  | case6 => exact takeNext_request
  | _ =>
    intro read
    cases read <;> rfl

theorem readCluster_request {letters : List Char} {x : Step}
    (read : readCluster s letters p ts = .ok x) : x.state.helpRequested = p.helpRequested := by
  revert read
  fun_induction readCluster s letters p ts with
  | case4 c cs p ts f found plain switch ih => exact ih
  | case5 => exact takeNext_request
  | _ =>
    intro read
    cases read <;> rfl

theorem readToken_request {x : Step} (read : readToken s token p ts = .ok x) :
    x.state.helpRequested = p.helpRequested := by
  unfold readToken at read
  cases shaped : shape token with
  | long name inline =>
    rw [shaped] at read
    exact readLong_request read
  | cluster letters =>
    rw [shaped] at read
    exact readCluster_request read
  | _ =>
    rw [shaped] at read
    cases read
    rfl

/-- Reading notes a request for help nowhere but at its end. -/
theorem course_request {x : Step} (read : course s p xs = .ok x) :
    x.state.helpRequested = p.helpRequested := by
  revert read
  fun_induction course s p xs with
  | case1 p =>
    intro read
    cases read
    rfl
  | case2 p t ts q rest step ih =>
    intro read
    exact (ih read).trans (readToken_request step)
  | case3 p t ts other => exact readToken_request

/-- Tokens that were read stay read, and the next ones are read from where they end. -/
theorem course_append {x : Step} (read : course s p xs = .ok x) :
    course s p (xs ++ ys) = x.resume s ys := by
  revert read
  fun_induction course s p xs with
  | case1 p =>
    intro read
    cases read
    rfl
  | case2 p t ts q rest step ih =>
    intro read
    rw [List.cons_append, course_cons, readToken_append step]
    exact ih read
  | case3 p t ts other =>
    intro read
    rw [List.cons_append, course_cons, readToken_append read]
    cases x with
    | more q rest => exact absurd read (other q rest)
    | stop q => rfl
    | help q => rfl

/-- A token that no flag has stays one. -/
theorem course_unknown {t : String} (read : course s p xs = .error (.unknownOption t)) :
    course s p (xs ++ ys) = .error (.unknownOption t) := by
  revert read
  fun_induction course s p xs with
  | case1 p => exact nofun
  | case2 p t ts q rest step ih =>
    intro read
    rw [List.cons_append, course_cons, readToken_append step]
    exact ih read
  | case3 p t ts other =>
    intro read
    rw [List.cons_append, course_cons]
    rcases readToken_fault read with ⟨_, -, always⟩ | ⟨_, _, _, other, -⟩
    · rw [always]
    · cases other

/-- A flag that wants its value takes the next token, whatever it looks like. -/
theorem course_missing {flag : String} (read : course s p xs = .error (.missingValue flag)) :
    ∃ f ∈ s.flags, flag ∈ f.spellings ∧ f.asksHelp = false ∧ f.takesValue = true ∧
      ∃ q : Parsed, ∀ v ys, course s p (xs ++ v :: ys) = course s (q.set f (.str v)) ys := by
  revert read
  fun_induction course s p xs with
  | case1 p => exact nofun
  | case2 p t ts q rest step ih =>
    intro read
    obtain ⟨f, member, spelled, plain, takes, q, goesOn⟩ := ih read
    refine ⟨f, member, spelled, plain, takes, q, fun v ys => ?_⟩
    rw [List.cons_append, course_cons, readToken_append step]
    exact goesOn v ys
  | case3 p t ts other =>
    intro read
    rcases readToken_fault read with ⟨_, other, -⟩ | ⟨spelling, f, q, same, none, next⟩
    · cases other
    · cases same
      subst none
      refine ⟨f, next.member, next.spelled, next.plain, next.takes, q, fun v ys => ?_⟩
      rw [List.cons_append, List.nil_append, course_cons, next.eq]
      rfl

/-! ## The end of the flags -/

theorem eq_of_shape_terminator (ends : shape token = .terminator) : token = "--" := by
  revert ends
  fun_cases shape token with
  | case1 letters => exact fun _ => String.toList_injective letters
  | _ => exact nofun

theorem takeNext_ne_stop {spelling : String} {f : Flag} :
    takeNext spelling f p ts ≠ .ok (.stop q) := by
  cases ts <;> exact nofun

theorem readLong_ne_stop {name : String} {inline : Option String} :
    readLong s token name inline p ts ≠ .ok (.stop q) := by
  fun_cases readLong s token name inline p ts with
  | case6 => exact takeNext_ne_stop
  | _ => exact nofun

theorem readCluster_ne_stop {letters : List Char} :
    readCluster s letters p ts ≠ .ok (.stop q) := by
  fun_induction readCluster s letters p ts with
  | case4 c cs p ts f found plain switch ih => exact ih
  | case5 => exact takeNext_ne_stop
  | _ => exact nofun

/-- No token but `--` ends the flags. -/
theorem eq_of_readToken_stop (read : readToken s token p ts = .ok (.stop q)) : token = "--" := by
  unfold readToken at read
  cases shaped : shape token with
  | terminator => exact eq_of_shape_terminator shaped
  | long name inline =>
    rw [shaped] at read
    exact absurd read readLong_ne_stop
  | cluster letters =>
    rw [shaped] at read
    exact absurd read readCluster_ne_stop
  | positional =>
    rw [shaped] at read
    cases read

/-- The flags end at a `--` up to which all tokens were read. -/
theorem course_stop (read : course s p xs = .ok (.stop q)) :
    ∃ before after r, xs = before ++ "--" :: after ∧ course s p before = .ok (.more r []) := by
  revert read
  fun_induction course s p xs with
  | case1 p => exact nofun
  | case2 p t ts r rest step ih =>
    intro read
    obtain ⟨before, after, last, rfl, first⟩ := ih read
    obtain ⟨taken, rfl, alone⟩ := readToken_more step
    refine ⟨t :: (taken ++ before), after, last, by simp, ?_⟩
    rw [course_cons, readToken_append alone]
    exact first
  | case3 p t ts other =>
    intro read
    obtain rfl := eq_of_readToken_stop read
    exact ⟨[], ts, p, rfl, course_nil p⟩

end NestShell.Options

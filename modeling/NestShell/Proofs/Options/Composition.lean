import Mathlib
import NestShell.Proofs.Options.Course

/-!
# Tokens after tokens

A list of tokens says what its parts say, one part after the other: a fault stays, a flag that still
wants its value takes the next token, and otherwise later tokens are read as if they stood alone and
what they say is added. Behind the end of the flags all tokens are positional. Tokens that ask for
help are left out of account, since one of them makes all others void.
-/

namespace NestShell.Options

open NestShell.Code

variable {s : Schema} {p q r : Parsed} {ts xs ys : List String}

/-! ## What is said first and what is said then -/

/-- `r` says what `p` says and then what `q` says. -/
structure Joined (p q r : Parsed) : Prop where
  args : r.args = p.args ++ q.args
  values : ∀ k, r.values.get? k = if k ∈ q.given then q.values.get? k else p.values.get? k
  given : ∀ k, k ∈ r.given ↔ k ∈ p.given ∨ k ∈ q.given
  help : r.helpRequested = (p.helpRequested || q.helpRequested)

namespace Joined

theorem start (s : Schema) (p : Parsed) : Joined p (Parsed.start s) p where
  args := (List.append_nil _).symm
  values _ := by simp [Parsed.start]
  given _ := by simp [Parsed.start]
  help := (Bool.or_false _).symm

theorem set (h : Joined p q r) (f : Flag) (v : Value) : Joined p (q.set f v) (r.set f v) where
  args := h.args
  values k := by
    rw [Parsed.get?_set, Parsed.get?_set, h.values]
    by_cases own : k = f.key
    · rw [if_pos own, if_pos own, if_pos ((q.mem_given_set f v k).mpr (.inr own))]
    · have same : k ∈ (q.set f v).given ↔ k ∈ q.given := by
        rw [Parsed.mem_given_set, or_iff_left own]
      rw [if_neg own, if_neg own, if_congr same rfl rfl]
  given k := by
    rw [Parsed.mem_given_set, Parsed.mem_given_set, h.given, or_assoc]
  help := h.help

theorem args_append (h : Joined p q r) (more : List String) :
    Joined p { q with args := q.args ++ more } { r with args := r.args ++ more } where
  args := by rw [h.args, List.append_assoc]
  values := h.values
  given := h.given
  help := h.help

theorem request (h : Joined p q r) :
    Joined p { q with helpRequested := true } { r with helpRequested := true } where
  args := h.args
  values := h.values
  given := h.given
  help := (Bool.or_true _).symm

end Joined

/-- The same step, taken after what `p` says. -/
inductive StepsJoined (p : Parsed) : Outcome → Outcome → Prop where
  | fault (f : Fault) : StepsJoined p (.error f) (.error f)
  | more {q r : Parsed} (rest : List String) :
      Joined p q r → StepsJoined p (.ok (.more q rest)) (.ok (.more r rest))
  | stop {q r : Parsed} : Joined p q r → StepsJoined p (.ok (.stop q)) (.ok (.stop r))
  | help {q r : Parsed} : Joined p q r → StepsJoined p (.ok (.help q)) (.ok (.help r))

theorem takeNext_joined (spelling : String) (f : Flag) (h : Joined p q r) :
    StepsJoined p (takeNext spelling f q ts) (takeNext spelling f r ts) := by
  cases ts with
  | nil => exact .fault _
  | cons v rest => exact .more rest (h.set f _)

theorem readLong_joined (token name : String) (inline : Option String) (h : Joined p q r) :
    StepsJoined p (readLong s token name inline q ts) (readLong s token name inline r ts) := by
  unfold readLong
  split
  · exact .fault _
  · next f _ =>
    split
    · exact .help h
    · split
      · split
        · exact .fault _
        · exact .more ts (h.set f _)
      · split
        · exact .more ts (h.set f _)
        · exact takeNext_joined _ f h

theorem readCluster_joined (letters : List Char) (h : Joined p q r) :
    StepsJoined p (readCluster s letters q ts) (readCluster s letters r ts) := by
  induction letters generalizing q r with
  | nil => exact .more ts h
  | cons c cs ih =>
    unfold readCluster
    split
    · exact .fault _
    · next f _ =>
      split
      · exact .help h
      · split
        · exact ih (h.set f _)
        · split
          · exact takeNext_joined _ f h
          · exact .more ts (h.set f _)

theorem readToken_joined (token : String) (h : Joined p q r) :
    StepsJoined p (readToken s token q ts) (readToken s token r ts) := by
  unfold readToken
  cases shape token with
  | terminator => exact .stop (h.args_append ts)
  | long name inline => exact readLong_joined token name inline h
  | cluster letters => exact readCluster_joined letters h
  | positional => exact .more ts (h.args_append [token])

/-- Reading does not depend on what was read before. -/
theorem course_joined (h : Joined p q r) : StepsJoined p (course s q ts) (course s r ts) := by
  fun_induction course s q ts generalizing r with
  | case1 q =>
    rw [course]
    exact .more [] h
  | case2 q t ts u rest step ih =>
    have both : StepsJoined p (readToken s t q ts) (readToken s t r ts) := readToken_joined t h
    rw [step] at both
    rw [course_cons]
    generalize readToken s t r ts = o at both
    cases both with
    | more rest joined => exact ih joined
  | case3 q t ts other =>
    have both : StepsJoined p (readToken s t q ts) (readToken s t r ts) := readToken_joined t h
    rw [course_cons]
    generalize readToken s t q ts = o at both other
    generalize readToken s t r ts = o' at both
    cases both with
    | fault f => exact .fault f
    | more rest joined => exact absurd rfl (other _ rest)
    | stop joined => exact .stop joined
    | help joined => exact .help joined

/-! ## The law -/

/-- Some token of the list ends the flags. -/
def Terminated (s : Schema) (ts : List String) : Prop :=
  s.isEmpty = false ∧ ∃ q, course s (Parsed.start s) ts = .ok (.stop q)

/-- The flags end at a `--` that is no value: all tokens before it were read. -/
theorem terminated_iff : Terminated s xs ↔ s.isEmpty = false ∧
    ∃ before after r, xs = before ++ "--" :: after ∧
      course s (Parsed.start s) before = .ok (.more r []) := by
  constructor
  · rintro ⟨flags, q, stopped⟩
    exact ⟨flags, course_stop stopped⟩
  · rintro ⟨flags, before, after, r, rfl, read⟩
    refine ⟨flags, { r with args := r.args ++ after }, ?_⟩
    rw [course_append read, Step.resume, course_cons]
    rfl

/-- What a list of tokens leads to if other tokens that say `p` stand before it. -/
def Follows (s : Schema) (p : Parsed) (ys : List String) (result : Except Fault Parsed) : Prop :=
  match parse s ys with
  | .error f => result = .error f
  | .ok q => ∃ r, result = .ok r ∧ Joined p q r

theorem parse_empty (empty : s.isEmpty = true) (ts : List String) :
    parse s ts = .ok { Parsed.start s with args := ts } := by
  unfold parse
  dsimp only
  rw [if_pos empty]

theorem parse_eq (flags : s.isEmpty = false) (plain : ∀ t ∈ ts, t ∉ s.helpTokens) :
    parse s ts = (course s (Parsed.start s) ts).map Step.parsed := by
  have none : ts.any s.helpTokens.contains = false := by simpa using plain
  unfold parse
  dsimp only
  rw [flags, none, readAll_eq]
  rfl

/-- Behind tokens that were read to their end others are read as if they stood alone. -/
theorem follows_of_course (flags : s.isEmpty = false) (plain : ∀ t ∈ ys, t ∉ s.helpTokens)
    (p : Parsed) : Follows s p ys ((course s p ys).map Step.parsed) := by
  have both : StepsJoined p (course s (Parsed.start s) ys) (course s p ys) :=
    course_joined (Joined.start s p)
  unfold Follows
  rw [parse_eq flags plain]
  generalize course s (Parsed.start s) ys = o at both
  generalize course s p ys = o' at both
  cases both with
  | fault f => rfl
  | more rest joined => exact ⟨_, rfl, joined⟩
  | stop joined => exact ⟨_, rfl, joined⟩
  | help joined => exact ⟨_, rfl, joined.request⟩

/-- Without flags all tokens are positional. -/
theorem follows_of_empty (empty : s.isEmpty = true) (xs ys : List String) :
    Follows s { Parsed.start s with args := xs } ys (parse s (xs ++ ys)) := by
  unfold Follows
  rw [parse_empty empty, parse_empty empty]
  exact ⟨_, rfl, rfl, fun _ => by simp [Parsed.start], fun _ => by simp [Parsed.start], rfl⟩

theorem course_of_fault {fault : Fault} (plain : ∀ t ∈ ts, t ∉ s.helpTokens)
    (failed : parse s ts = .error fault) :
    s.isEmpty = false ∧ course s (Parsed.start s) ts = .error fault := by
  cases flags : s.isEmpty with
  | true =>
    rw [parse_empty flags] at failed
    cases failed
  | false =>
    rw [parse_eq flags plain] at failed
    cases read : course s (Parsed.start s) ts with
    | ok x =>
      rw [read] at failed
      cases failed
    | error e =>
      rw [read] at failed
      cases failed
      exact ⟨rfl, rfl⟩

theorem parse_unknown {t : String} (first : ∀ t ∈ xs, t ∉ s.helpTokens)
    (plain : ∀ t ∈ xs ++ ys, t ∉ s.helpTokens)
    (failed : parse s xs = .error (.unknownOption t)) :
    parse s (xs ++ ys) = .error (.unknownOption t) := by
  obtain ⟨flags, read⟩ := course_of_fault first failed
  rw [parse_eq flags plain, course_unknown read]
  rfl

/-- The reading of tokens that failed for want of a value goes on once there is one. -/
theorem parse_missing {flag v : String} {zs : List String}
    (plain : ∀ t ∈ xs ++ v :: zs, t ∉ s.helpTokens)
    (failed : parse s xs = .error (.missingValue flag)) :
    ∃ f ∈ s.flags, flag ∈ f.spellings ∧ f.takesValue = true ∧
      ∃ q, parse s (xs ++ [v]) = .ok q ∧ q.values.get? f.key = some (.str v) ∧ f.key ∈ q.given ∧
        q.helpRequested = false ∧ ¬ Terminated s (xs ++ [v]) ∧
        Follows s q zs (parse s (xs ++ v :: zs)) := by
  have plainAt (ts : List String) (part : ∀ t ∈ ts, t ∈ xs ++ v :: zs) :
      ∀ t ∈ ts, t ∉ s.helpTokens := fun t member => plain t (part t member)
  obtain ⟨flags, read⟩ := course_of_fault (plainAt xs (by grind)) failed
  obtain ⟨f, member, spelled, -, takes, q, goesOn⟩ := course_missing read
  have one : course s (Parsed.start s) (xs ++ [v]) = .ok (.more (q.set f (.str v)) []) := by
    rw [goesOn, course_nil]
  refine ⟨f, member, spelled, takes, q.set f (.str v), ?_, ?_, ?_, course_request one, ?_, ?_⟩
  · rw [parse_eq flags (plainAt _ (by grind)), one]
    rfl
  · rw [Parsed.get?_set, if_pos rfl]
  · exact (Parsed.mem_given_set _ _ _ _).mpr (.inr rfl)
  · rintro ⟨-, r, stopped⟩
    cases one.symm.trans stopped
  · rw [parse_eq flags plain, goesOn]
    exact follows_of_course flags (plainAt zs (by grind)) _

theorem parse_read {p : Parsed} (plain : ∀ t ∈ xs ++ ys, t ∉ s.helpTokens)
    (done : parse s xs = .ok p) (request : p.helpRequested = false)
    (going : ¬ Terminated s xs) : Follows s p ys (parse s (xs ++ ys)) := by
  cases flags : s.isEmpty with
  | true =>
    rw [parse_empty flags] at done
    cases done
    exact follows_of_empty flags xs ys
  | false =>
    rw [parse_eq flags fun t member => plain t (List.mem_append_left ys member)] at done
    rw [parse_eq flags plain]
    cases read : course s (Parsed.start s) xs with
    | error fault =>
      rw [read] at done
      cases done
    | ok x =>
      rw [read] at done
      rw [course_append read]
      cases x with
      | more q rest =>
        cases done
        exact follows_of_course flags (fun t member => plain t (List.mem_append_right xs member)) q
      | stop q => exact absurd ⟨flags, q, read⟩ going
      | help q =>
        cases done
        cases request

/-- Behind the end of the flags all tokens are positional. -/
theorem parse_terminated (first : ∀ t ∈ xs, t ∉ s.helpTokens)
    (plain : ∀ t ∈ xs ++ ys, t ∉ s.helpTokens) (ended : Terminated s xs) :
    ∃ p, parse s xs = .ok p ∧ p.helpRequested = false ∧
      parse s (xs ++ ys) = .ok { p with args := p.args ++ ys } := by
  obtain ⟨flags, q, stopped⟩ := ended
  refine ⟨q, ?_, course_request stopped, ?_⟩
  · rw [parse_eq flags first, stopped]
    rfl
  · rw [parse_eq flags plain, course_append stopped]
    rfl

/-- Reading is compositional. An unknown flag stays one. A flag without a value takes the next
token, whatever it looks like, and reading goes on behind it. Where the first tokens are read to
their end, the others fail as they do alone or add what they say; and if the flags have ended among
the first tokens, the others are positional. -/
theorem parse_append (plain : ∀ t ∈ xs ++ ys, t ∉ s.helpTokens) :
    (∀ t, parse s xs = .error (.unknownOption t) → parse s (xs ++ ys) = .error (.unknownOption t)) ∧
    (∀ flag v zs, parse s xs = .error (.missingValue flag) → ys = v :: zs →
      ∃ f ∈ s.flags, flag ∈ f.spellings ∧ f.takesValue = true ∧
        ∃ q, parse s (xs ++ [v]) = .ok q ∧ q.values.get? f.key = some (.str v) ∧ f.key ∈ q.given ∧
          q.helpRequested = false ∧ ¬ Terminated s (xs ++ [v]) ∧
          Follows s q zs (parse s (xs ++ ys))) ∧
    (∀ p, parse s xs = .ok p → p.helpRequested = false → ¬ Terminated s xs →
      Follows s p ys (parse s (xs ++ ys))) ∧
    (Terminated s xs → ∃ p, parse s xs = .ok p ∧ p.helpRequested = false ∧
      parse s (xs ++ ys) = .ok { p with args := p.args ++ ys }) := by
  have first : ∀ t ∈ xs, t ∉ s.helpTokens :=
    fun t member => plain t (List.mem_append_left ys member)
  refine ⟨fun t failed => parse_unknown first plain failed, ?missing,
    fun p done request going => parse_read plain done request going,
    fun ended => parse_terminated first plain ended⟩
  rintro flag v zs failed rfl
  exact parse_missing plain failed

def verboseFlag : Flag := { short := some 'v', long := some "verbose" }

def filterFlag : Flag := { short := some 'f', long := some "filter", kind := .value .none "" }

/-- A switch, a flag that takes a value, and the help flag. -/
def searchFlags : Schema := .withHelp [verboseFlag, filterFlag]

/-- A flag at the end of a cluster takes even `--` for its value, and the flags go on behind it. -/
theorem cluster_takes_dashes :
    (∀ t ∈ ["a", "-vf"] ++ ["--", "-5"], t ∉ searchFlags.helpTokens) ∧
    parse searchFlags ["a", "-vf"] = .error (.missingValue "-f") ∧
    ∃ f ∈ searchFlags.flags, "-f" ∈ f.spellings ∧ f.takesValue = true ∧
      ∃ q, parse searchFlags ["a", "-vf", "--"] = .ok q ∧
        q.values.get? f.key = some (.str "--") ∧ f.key ∈ q.given ∧ q.helpRequested = false ∧
        ¬ Terminated searchFlags ["a", "-vf", "--"] ∧
        Follows searchFlags q ["-5"] (parse searchFlags ["a", "-vf", "--", "-5"]) := by
  have plain : ∀ t ∈ ["a", "-vf"] ++ ["--", "-5"], t ∉ searchFlags.helpTokens := by decide
  have failed : parse searchFlags ["a", "-vf"] = .error (.missingValue "-f") := by cbv
  exact ⟨plain, failed, (parse_append plain).2.1 "-f" "--" ["-5"] failed rfl⟩

end NestShell.Options

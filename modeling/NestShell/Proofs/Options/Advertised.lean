import NestShell.Proofs.Options.Rendering

/-!
# What usage texts advertise

A usage text names each flag by its spellings, and reading such a spelling gives this flag and no
other. Three kinds of flags are left out, though nothing refuses them: a short form that is a digit
makes a negative number, a long form is cut at an equals sign in it, and flags whose long forms
differ in dashes and low lines only have one key, and so one value.
-/

namespace NestShell.Options

open NestShell.Text NestShell.Code

namespace Flag

/-- The tokens that give the flag in one of its spellings, and with a value if it takes one. -/
def use (f : Flag) (spelling v : String) : List String :=
  if f.takesValue then [spelling, v] else [spelling]

/-- What stands for the flag when it is given so. -/
def used (f : Flag) (v : String) : Value := if f.takesValue then .str v else .bool true

end Flag

variable {s : Schema} {f g : Flag} {spelling v : String}

/-- A spelling is read as the flag that has it, unless it looks like a number or holds an equals
sign. -/
theorem readToken_spelling (accepted : Accepted s) (member : f ∈ s.flags)
    (plain : f.asksHelp = false) (spelled : spelling ∈ f.spellings)
    (number : isNegativeNumber spelling = false)
    (whole : ∀ n, spelling = Flag.longToken n → '=' ∉ n.toList) (p : Parsed) (ts : List String) :
    readToken s spelling p ts =
      if f.takesValue then takeNext spelling f p ts else .ok (.more (p.set f (.bool true)) ts) := by
  rcases Flag.mem_spellings.mp spelled with ⟨c, short, rfl⟩ | ⟨n, long, rfl⟩
  · have letters : (Flag.shortToken c).toList = ['-', c] := by simp [Flag.shortToken]
    have found := accepted.findShort? member short
    rw [readToken_cluster letters ((accepted.made member).short_ne short) number]
    split
    · next takes => exact readCluster_next found plain takes
    · next alone =>
      rw [readCluster_switch found plain (Bool.eq_false_iff.mpr alone), readCluster]
  · have found := accepted.findLong? member long
    rw [readToken_long (Flag.longForm?_ne long) (whole n rfl)]
    split
    · next takes => exact readLong_next found plain takes
    · next alone => exact readLong_switch found plain (Bool.eq_false_iff.mpr alone)

theorem course_use (accepted : Accepted s) (member : f ∈ s.flags) (plain : f.asksHelp = false)
    (spelled : spelling ∈ f.spellings) (number : isNegativeNumber spelling = false)
    (whole : ∀ n, spelling = Flag.longToken n → '=' ∉ n.toList) (p : Parsed) :
    course s p (f.use spelling v) = .ok (.more (p.set f (f.used v)) []) := by
  have step := readToken_spelling accepted member plain spelled number whole p
  unfold Flag.use Flag.used
  split
  · next takes =>
    rw [course_cons, step, if_pos takes]
    exact course_nil _
  · next alone =>
    rw [course_cons, step, if_neg alone]
    exact course_nil _

theorem use_plain (accepted : Accepted s) (member : f ∈ s.flags) (plain : f.asksHelp = false)
    (spelled : spelling ∈ f.spellings) (value : f.takesValue = true → v ∉ s.helpTokens) :
    ∀ t ∈ f.use spelling v, t ∉ s.helpTokens := by
  have own := accepted.not_mem_helpTokens member plain spelled
  unfold Flag.use
  split
  · next takes => simp [own, value takes]
  · simp [own]

/-- Reading an advertised spelling, with a value if the flag takes one, gives the flag this value
and nothing else: no flag with another key is given, and each keeps its initial value unless a
later flag has the same key. -/
theorem parse_advertised (accepted : Accepted s) (member : f ∈ s.flags)
    (plain : f.asksHelp = false) (spelled : spelling ∈ f.spellings)
    (number : isNegativeNumber spelling = false)
    (whole : ∀ n, spelling = Flag.longToken n → '=' ∉ n.toList)
    (value : f.takesValue = true → v ∉ s.helpTokens) :
    ∃ p, parse s (f.use spelling v) = .ok p ∧
      p.get? f.key = some (f.used v) ∧ p.isGiven f.key = true ∧
      p.args = [] ∧ p.helpRequested = false ∧
      ∀ before g after, s.flags = before ++ g :: after → g.asksHelp = false → g.key ≠ f.key →
        p.isGiven g.key = false ∧
        ((∀ h ∈ after, h.asksHelp = false → h.key ≠ g.key) → p.get? g.key = some g.initial) := by
  have flags : s.isEmpty = false := by
    cases empty : s.isEmpty with
    | false => rfl
    | true => simp [List.isEmpty_iff.mp empty] at member
  have read : parse s (f.use spelling v) = .ok ((Parsed.start s).set f (f.used v)) := by
    rw [parse_eq flags (use_plain accepted member plain spelled value),
      course_use accepted member plain spelled number whole]
    rfl
  have own := (accepted.made member).plainKey_key
  refine ⟨_, read, ?_, ?_, rfl, rfl, fun before g after split plain' other => ?_⟩
  · rw [Parsed.get?, own, Parsed.get?_set, if_pos rfl]
  · rw [Parsed.isGiven, own, List.contains_iff_mem, Parsed.mem_given_set]
    exact .inr rfl
  · have key := (accepted.made (f := g) (by simp [split])).plainKey_key
    constructor
    · rw [Parsed.isGiven, key, Bool.eq_false_iff, ne_eq, List.contains_iff_mem,
        Parsed.mem_given_set]
      exact fun given => given.elim List.not_mem_nil other
    · intro last
      rw [Parsed.get?, key, Parsed.get?_set, if_neg other]
      exact Schema.initials_get? split plain' last

/-- A value that is a number is read for the flag before it. -/
theorem filter_spelling_read :
    Accepted searchFlags ∧ filterFlag ∈ searchFlags.flags ∧ filterFlag.asksHelp = false ∧
    "--filter" ∈ filterFlag.spellings ∧ isNegativeNumber "--filter" = false ∧
    (∀ n, "--filter" = Flag.longToken n → '=' ∉ n.toList) ∧
    (filterFlag.takesValue = true → "-9" ∉ searchFlags.helpTokens) ∧
    ∃ p, parse searchFlags ["--filter", "-9"] = .ok p ∧
      p.get? "filter" = some (.str "-9") ∧ p.isGiven "filter" = true ∧
      p.args = [] ∧ p.helpRequested = false ∧
      p.isGiven "verbose" = false ∧ p.get? "verbose" = some (.bool false) := by
  have accepted := searchFlags_legible.accepted
  have member : filterFlag ∈ searchFlags.flags := mem_searchFlags.mpr (.inr (.inl rfl))
  have spelled : "--filter" ∈ filterFlag.spellings := by decide
  have number : isNegativeNumber "--filter" = false := by decide +kernel
  have whole (n : String) (same : "--filter" = Flag.longToken n) : '=' ∉ n.toList := by
    have letters : n.toList = "filter".toList := by
      simpa [Flag.longToken] using (congrArg String.toList same).symm
    rw [letters]
    decide
  have value : filterFlag.takesValue = true → "-9" ∉ searchFlags.helpTokens := fun _ => by decide
  refine ⟨accepted, member, rfl, spelled, number, whole, value, ?_⟩
  obtain ⟨p, read, holds, given, args, help, others⟩ :=
    parse_advertised accepted member rfl spelled number whole value
  have verbose := others [] verboseFlag [filterFlag, helpFlag] rfl rfl (by decide)
  exact ⟨p, read, holds, given, args, help, verbose.1, verbose.2 (by decide)⟩

/-- A switch that is on from the start. -/
def dashedFlag : Flag := { long := some "a-b", kind := .switch true }

def lowLineFlag : Flag := { long := some "a_b" }

/-- Accepted flags that are not read as they are advertised: a digit, a form that is cut, flags with
one key of which one is given, and flags with one key of which none is. -/
theorem advertised_misread :
    (Accepted ⟨[{ short := some '5' }]⟩ ∧ "-5" ∈ Flag.spellings { short := some '5' } ∧
      ∃ p, parse ⟨[{ short := some '5' }]⟩ ["-5"] = .ok p ∧ p.isGiven "5" = false ∧
        p.args = ["-5"]) ∧
    (Accepted ⟨[{ long := some "a=b" }]⟩ ∧ "--a=b" ∈ Flag.spellings { long := some "a=b" } ∧
      parse ⟨[{ long := some "a=b" }]⟩ ["--a=b"] = .error (.unknownOption "--a=b")) ∧
    (Accepted ⟨[dashedFlag, lowLineFlag]⟩ ∧ "--a-b" ∈ dashedFlag.spellings ∧
      ∃ p, parse ⟨[dashedFlag, lowLineFlag]⟩ ["--a-b"] = .ok p ∧
        p.isGiven lowLineFlag.key = true ∧ lowLineFlag.initial = .bool false ∧
        p.get? lowLineFlag.key = some (.bool true)) ∧
    (Accepted ⟨[verboseFlag, dashedFlag, lowLineFlag]⟩ ∧ "-v" ∈ verboseFlag.spellings ∧
      ∃ p, parse ⟨[verboseFlag, dashedFlag, lowLineFlag]⟩ ["-v"] = .ok p ∧
        dashedFlag.initial = .bool true ∧ p.get? dashedFlag.key = some (.bool false)) := by
  have dashed : Made dashedFlag := ⟨none, some "a-b", "", _, _, by cbv⟩
  have lowLine : Made lowLineFlag := ⟨none, some "a_b", "", _, _, by cbv⟩
  have verbose : Made verboseFlag := ⟨some "v", some "verbose", "", _, _, by cbv⟩
  refine ⟨?digit, ?cut, ?given, ?initial⟩
  case digit =>
    exact ⟨.add .empty ⟨some "5", none, "", _, _, by cbv⟩ rfl, by decide,
      (Parsed.start ⟨[{ short := some '5' }]⟩).addArg "-5", by cbv, by decide +kernel, rfl⟩
  case cut =>
    exact ⟨.add .empty ⟨none, some "a=b", "", _, _, by cbv⟩ rfl, by decide, by cbv⟩
  case given =>
    exact ⟨.add (.add .empty dashed rfl) lowLine rfl, by decide,
      (Parsed.start ⟨[dashedFlag, lowLineFlag]⟩).set dashedFlag (.bool true), by cbv, by decide,
      rfl, by cbv⟩
  case initial =>
    exact ⟨.add (.add (.add .empty verbose rfl) dashed rfl) lowLine rfl, by decide,
      (Parsed.start ⟨[verboseFlag, dashedFlag, lowLineFlag]⟩).set verboseFlag (.bool true), by cbv,
      rfl, by cbv⟩

end NestShell.Options

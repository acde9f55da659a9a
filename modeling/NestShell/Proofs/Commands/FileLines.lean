import NestShell.Proofs.Command.Aliases
import NestShell.Proofs.Files.Tree
import NestShell.Proofs.Options.Rendering
import NestShell.Proofs.Places
import NestShell.Proofs.Shell.Failure
import NestShell.Proofs.Shell.Pages
import NestShell.Proofs.Text.Layout
import NestShell.Proofs.Text.Numbering

/-!
# Lines of a file, shown with their numbers

Bounds that count from either end of the file choose its lines, wherever they lie. The chosen lines
are put together, blank ones at the end are dropped, and the text is cut into lines once more to be
numbered: they are the same lines, and their numbers are their places in the file. A bound with too
many digits is no number to the command.
-/

namespace NestShell.Shell

/-- The desk with a machine after a program. -/
def Desk.after (d : Desk) (m : Code.Machine) : Desk := { d with machine := m }

end NestShell.Shell

namespace NestShell.Commands

open NestShell.Code NestShell.Files NestShell.Shell NestShell.Text

/-! ## Chosen lines -/

/-- Lines behind their numbers, which count from one and are as wide as the last of them. -/
def numberedText (shown : List (String × Nat)) : String :=
  let width := (shown.getLast?.map fun e => (toString (e.2 + 1)).length).getD 0
  "\n".intercalate (shown.map fun e => numbered width (e.2 + 1) e.1)

theorem numberLines_slice (start : Nat) (text : String) :
    numberLines ((start : Int) + 1) text = numberedText ((lines text).zipIdx start) := by
  refine (numberLines_eq (start + 1) text).trans ?_
  unfold numberedText
  rw [List.getLast?_zipIdx]
  cases rows : lines text with
  | nil => rfl
  | cons first rest =>
    have last : start + 1 + (first :: rest).length - 1 =
        start + (first :: rest).length - 1 + 1 := by
      rw [List.length_cons]
      omega
    rw [List.getLast?_cons, List.mapIdx_eq_zipIdx_map, List.zipIdx_eq_map_add (i := start), last]
    dsimp only
    rw [List.map_map]
    refine congrArg _ (List.map_congr_left fun e _ => ?_)
    change numbered _ (start + 1 + e.2) e.1 = numbered _ (start + e.2 + 1) e.1
    rw [Nat.add_right_comm]
    rfl

/-- What a line is numbered with is its place in the file. -/
theorem exists_shown (content : String) (a b : Int) :
    let place (i : Int) : Int := if i < 0 then i + (lines content).length else i
    let range := lineRange (universalNewlines content) a b
    ∃ shown dropped,
      ((lines content).zipIdx.filter fun e => place a ≤ e.2 ∧ (e.2 : Int) ≤ place b) =
        shown ++ dropped ∧
      (∀ e ∈ dropped, e.1 = "") ∧
      Render.plainSource (some (range.2.1 + 1)) (trimEndOf ['\n'] range.1) = numberedText shown ∧
      ∀ c ∈ (numberedText shown).toList.getLast?, c ≠ '\n' := by
  intro place range
  have count : (linesWithEnds (universalNewlines content)).length = (lines content).length := by
    rw [linesWithEnds, ← lines_universalNewlines, lines, List.length_map, List.length_map]
  let first : Int := max 0 (min (place a) (lines content).length)
  let last : Int := max (-1) (min (place b) ((lines content).length - 1))
  have slice : range = (String.join
      (((linesWithEnds (universalNewlines content)).take (last + 1).toNat).drop first.toNat),
      first, last) := by
    change lineRange (universalNewlines content) a b = _
    unfold lineRange
    dsimp only
    rw [count]
    rfl
  have number : first = (first.toNat : Int) := (Int.toNat_of_nonneg (by omega)).symm
  obtain ⟨kept, dropped, whole, empty, read⟩ :=
    exists_kept_lines content first.toNat (last + 1).toNat
  have text := numberLines_slice first.toNat (trimEndOf ['\n'] range.1)
  rw [slice, read] at text
  refine ⟨kept.zipIdx first.toNat, dropped.zipIdx (first.toNat + kept.length), ?_, ?_, ?_, ?_⟩
  · rw [← List.zipIdx_append, ← whole, zipIdx_slice]
    refine List.filter_congr fun e member => ?_
    have inside := List.snd_lt_of_mem_zipIdx member
    simp only [decide_eq_decide]
    omega
  · intro e member
    exact empty _ (List.fst_mem_of_mem_zipIdx member)
  · rw [slice, ← text]
    dsimp only [Render.plainSource]
    rw [← number]
  · rw [← text]
    exact numberLines_ends (first.toNat + 1) _

/-! ## Bounds -/

section Bounds

variable {i : Int} {s flag : String} {m : Machine}

/-- The number that a text is, if it is one. -/
def numberOf? (s : String) : Run (Option Int) :=
  Run.catchingOnly "TypeError" (Run.catchingOnly "ValueError" (do
    match ← Run.makeInt engine [.str s] [] with
    | .int n => return some n
    | _ => return none) fun _ => return none) fun _ => return none

theorem intOption_apply (s flag : String) (m : Machine) :
    intOption (.str s) flag m = match numberOf? s m with
      | .ok (some n) t => .ok (.ok n) t
      | .ok none t => .ok (.error ("--" ++ flag ++ " expects an integer, got " ++ quoted s)) t
      | .error f t => .error f t := by
  change (numberOf? s >>= _) m = _
  rw [Run.bind_apply]
  rcases numberOf? s m with ⟨_ | n, t⟩ | ⟨f, t⟩ <;> rfl

theorem numberOf?_ok (read : readInt s = .ok i) (m : Machine) :
    numberOf? s m = .ok (some i) m := by
  refine Run.catchingOnly_ok (Run.catchingOnly_ok ?_)
  rw [Run.bind_apply, Run.makeInt_text read]
  rfl

theorem numberOf?_tooLong {digits : Nat} (read : readInt s = .error (.tooLong digits))
    (m : Machine) : ∃ t, t.output = m.output ∧ numberOf? s m = .ok none t := by
  obtain ⟨e, builtin, made⟩ := Run.makeInt_unread read m
  let u : Machine := { m with heap := m.heap.push (.error e) }
  have raised : (do
      match ← Run.makeInt engine [.str s] [] with
      | .int n => return some n
      | _ => return none : Run (Option Int)) m = .error (.raised m.heap.size) u := by
    rw [Run.bind_apply, made]
  have is : (Run.caughtAt m u).isOf m.heap.size "ValueError" = true := by
    rw [Machine.isOf_newest (e := e) rfl builtin]
    decide +kernel
  refine ⟨Run.caughtAt m u, rfl, Run.catchingOnly_ok ((Run.catchingOnly_raised raised).trans ?_)⟩
  rw [if_pos is]
  rfl

end Bounds

/-! ## The body -/

/-- What the line asks for: the lines from one bound to another, with numbers. -/
structure Asks (options : Options.Parsed) (start stop name : String) : Prop where
  numbers : options.isOn "line_numbers" = true
  paged : options.isOn "flood" = false
  start : options.get? "start" = some (.str start)
  stop : options.get? "end" = some (.str stop)
  args : options.args = [name]

section Body

variable {ctx : Context} {d : Desk} {a b : Int} {name : String}

theorem setName_apply (address : Nat) (n : String) (v : Value) (m : Machine) :
    ∃ t, t.output = m.output ∧ Run.setName address n v m = .ok .unit t := by
  unfold Run.setName
  rw [Run.bind_apply, Run.object_apply]
  dsimp only
  cases m.object address with
  | names table receiver =>
    exact ⟨{ m with heap := m.heap.setIfInBounds address (.names (table.set n v) receiver) },
      rfl, rfl⟩
  | _ => exact ⟨m, rfl, rfl⟩

theorem printed_output {e : Desk} {m : Machine} (output : m.output = d.machine.output)
    (text : String) : ((e.after m).printed text).machine.output = d.machine.output ++ text :=
  congrArg (· ++ text) output

/-- Naming a file prints nothing. -/
theorem setFileLocals_apply (scope : Scope) (path : String) (d : Desk) : ∃ m,
    m.output = d.machine.output ∧ setFileLocals scope path d = .ok .unit (d.after m) := by
  let full := Path.absolute d.files.working (Path.expand d.homes path)
  obtain ⟨t, output, set_⟩ := setName_apply scope.locals "_file_" (.str full) d.lent
  obtain ⟨u, output', set'⟩ := setName_apply scope.locals "_dir_" (.str (Path.parent full)) t
  refine ⟨u, output'.trans output, ?_⟩
  unfold setFileLocals
  rw [bind_apply, get_apply]
  dsimp only
  rw [ofRun_apply, Run.bind_apply]
  unfold Scope.setLocal
  rw [set_]
  dsimp only
  rw [set']
  rfl

/-- A bound is read as an integer, unless it has too many digits: then this is reported. -/
theorem bound_ok (short : (toString a.natAbs).length ≤ digitLimit) (flag : String) (d : Desk) :
    DeskM.ofRun (intOption (.str (toString a)) flag) d = .ok (.ok a) (d.after d.lent) := by
  have read : readInt (toString a) = .ok a := by rw [readInt_toString, numeral, if_pos short]
  rw [ofRun_apply, intOption_apply, numberOf?_ok read]
  rfl

theorem bound_tooLong (long : ¬ (toString a.natAbs).length ≤ digitLimit) (flag : String)
    (d : Desk) : ∃ m, m.output = d.machine.output ∧
      DeskM.ofRun (intOption (.str (toString a)) flag) d =
        .ok (.error ("--" ++ flag ++ " expects an integer, got " ++ quoted (toString a)))
          (d.after m) := by
  have read : readInt (toString a) = .error (.tooLong (toString a.natAbs).length) := by
    rw [readInt_toString, numeral, if_neg long]
  obtain ⟨m, output, none_⟩ := numberOf?_tooLong read d.lent
  refine ⟨m, output, ?_⟩
  rw [ofRun_apply, intOption_apply, none_]
  rfl

theorem readLines_eq {full content : String} {bytes : List UInt8}
    (leads : Path.expandPlain? d.homes (Path.expand d.homes name) = some full)
    (named : containsChar '\x00' full = false) (held : d.files.read full = .ok bytes)
    (decodes : Utf8.decode bytes = .ok content) :
    readLines d (Path.expand d.homes name) a b =
      .ok (lineRange (universalNewlines content) a b) := by
  unfold readLines
  rw [leads]
  dsimp only
  rw [Tree.readText_of_decode named held decodes]

/-- A range of lines as it is drawn: with the number of its first line, and without line ends at the
end of either text. -/
def drawn (d : Desk) (language : String) (range : String × Int × Int) : String :=
  trimEndOf ['\n']
    (d.highlighted language (some (range.2.1 + 1)) (trimEndOf ['\n'] range.1))

theorem shown_drawn_after (d : Desk) (m : Machine) (remainder language : String)
    (range : String × Int × Int) :
    let e := ({ d with trailing := remainder } : Desk).after m
    e.shown (drawn e language range) = d.shown (drawn d language range) := by
  intro e
  have highlighted : e.highlighted = d.highlighted := rfl
  have shown : e.shown = d.shown := rfl
  rw [shown, drawn, highlighted, drawn]

theorem showFile_shows (asks : Asks ctx.options (toString a) (toString b) name) {path : String}
    {range : String × Int × Int} (read : readLines d path a b = .ok range) :
    ∃ language e, showFile ctx path a b d = .ok .nothing e ∧
      e.machine.output = d.machine.output ++ d.shown (drawn d language range) := by
  obtain ⟨m, output, set_⟩ := setFileLocals_apply ctx.target path d
  obtain ⟨chosen, first, last⟩ := range
  let language := d.outside.drawing.guess path chosen (ctx.options.text? "type")
  let text := drawn d language (chosen, first, last)
  refine ⟨language, (d.after m).printed (d.shown text), ?_, printed_output output _⟩
  unfold showFile
  rw [bind_apply, get_apply]
  dsimp only
  rw [read]
  dsimp only
  rw [bind_apply, set_]
  dsimp only
  rw [bind_apply, get_apply]
  dsimp only
  rw [bind_apply, numbersFrom, asks.numbers, if_pos rfl, highlighted_apply]
  dsimp only
  rw [asks.paged, bind_apply, pageTrimmed_apply]
  rfl

/-- The first bound is read before the last, and both before the file. -/
theorem runCatFile_start (asks : Asks ctx.options (toString a) (toString b) name)
    (shortStart : (toString a.natAbs).length ≤ digitLimit) :
    runCatFile ctx d = (do
      match ← DeskM.ofRun (intOption (.str (toString b)) "end") with
      | .error report =>
        DeskM.putsError report
        return .skip
      | .ok stop => showFile ctx (Path.expand d.homes name) a stop : DeskM Reply)
      (d.after d.lent) := by
  have args : ctx.args = [name] := asks.args
  have start : optionValue ctx "start" = .str (toString a) := by rw [optionValue, asks.start]; rfl
  have stop : optionValue ctx "end" = .str (toString b) := by rw [optionValue, asks.stop]; rfl
  unfold runCatFile
  rw [args]
  dsimp only
  rw [bind_apply, get_apply]
  dsimp only
  rewrite [bind_apply, start, bound_ok shortStart, stop]
  rfl

theorem runCatFile_reads (asks : Asks ctx.options (toString a) (toString b) name)
    (shortStart : (toString a.natAbs).length ≤ digitLimit)
    (shortStop : (toString b.natAbs).length ≤ digitLimit) :
    ∃ m, m.output = d.machine.output ∧
      runCatFile ctx d = showFile ctx (Path.expand d.homes name) a b (d.after m) := by
  refine ⟨(d.after d.lent).lent, rfl, ?_⟩
  rw [runCatFile_start asks shortStart, bind_apply, bound_ok shortStop]
  rfl

/-- A bound with too many digits is reported before the file is read. -/
theorem runCatFile_refuses (asks : Asks ctx.options (toString a) (toString b) name)
    (shortStart : (toString a.natAbs).length ≤ digitLimit)
    (longStop : ¬ (toString b.natAbs).length ≤ digitLimit) :
    ∃ e, runCatFile ctx d = .ok .skip e ∧ e.machine.output = d.machine.output ++
      wholeLines ("error: --end expects an integer, got " ++ quoted (toString b)) := by
  have report : "error: " ++ ("--" ++ "end" ++ " expects an integer, got " ++ quoted (toString b)) =
      "error: --end expects an integer, got " ++ quoted (toString b) := by
    rw [← String.append_assoc]
    exact congrArg (· ++ _) (by decide +kernel)
  obtain ⟨m, output, refused⟩ := bound_tooLong longStop "end" (d.after d.lent)
  rw [← report]
  refine ⟨((d.after d.lent).after m).printed _, ?_, printed_output output _⟩
  rw [runCatFile_start asks shortStart, bind_apply, refused]
  rfl

end Body

/-! ## The line -/

section Line

variable {s : State} {a b : Int} {name : String}

/-- The line that asks for the lines of a file from one bound to another, with their numbers. -/
def showLines (a b : Int) (name : String) : String :=
  joinWords ["cat-file", "-l", "-s", toString a, "-e", toString b, name]

/-- An integer asks for no help. -/
theorem toString_not_mem_helpTokens (i : Int) : toString i ∉ catFile.options.helpTokens := by
  have tokens : catFile.options.helpTokens = ["-h", "--help"] := rfl
  have letter : 'h' ∉ (toString i).toList := by
    intro member
    rcases isDigit_of_mem_toString_int member with sign | digit
    · cases sign
    · cases digit
  rw [tokens]
  intro help
  rcases List.mem_cons.mp help with same | help
  · exact letter (by rw [same]; decide)
  · exact letter (by rw [List.mem_singleton.mp help]; decide)

/-- The tokens of the line. -/
theorem parse_showLines (positional : name.toList.head? ≠ some '-') : ∃ options,
    Options.parse catFile.options ["-l", "-s", toString a, "-e", toString b, name] = .ok options ∧
      options.helpRequested = false ∧ Asks options (toString a) (toString b) name := by
  have file : name ∉ catFile.options.helpTokens := by
    intro help
    rcases List.mem_cons.mp help with rfl | help
    · exact positional (by decide)
    · obtain rfl := List.mem_singleton.mp help
      exact positional (by decide)
  have plain : ∀ token ∈ ["-l", "-s", toString a, "-e", toString b, name],
      token ∉ catFile.options.helpTokens := by
    simp only [List.forall_mem_cons]
    exact ⟨by decide, by decide, toString_not_mem_helpTokens a, by decide,
      toString_not_mem_helpTokens b, file, List.forall_mem_nil _⟩
  obtain ⟨p, q, r, numbers, start, stop, noHelp, asks⟩ : ∃ p q r,
      Options.readToken catFile.options "-l" (.start catFile.options)
          ["-s", toString a, "-e", toString b, name] =
        .ok (.more p ["-s", toString a, "-e", toString b, name]) ∧
      Options.readToken catFile.options "-s" p [toString a, "-e", toString b, name] =
        .ok (.more q ["-e", toString b, name]) ∧
      Options.readToken catFile.options "-e" q [toString b, name] = .ok (.more r [name]) ∧
      (r.addArg name).helpRequested = false ∧
      Asks (r.addArg name) (toString a) (toString b) name :=
    ⟨_, _, _, rfl, rfl, rfl, rfl, ⟨rfl, rfl, rfl, rfl, rfl⟩⟩
  refine ⟨r.addArg name, ?_, noHelp, asks⟩
  rw [Options.parse_eq rfl plain, Options.course_more numbers, Options.course_more start,
    Options.course_more stop,
    Options.course_more (Options.readToken_positional (.inr (.inl positional))),
    Options.course_nil]
  rfl

theorem perform_catFile {ctx : Context} (command : ctx.command = catFile) :
    perform ctx = ShellM.ofDesk (runCatFile ctx) := by
  unfold perform performing bodies
  rw [command]
  rfl

/-- What the line comes to is what the body comes to. -/
theorem dispatch_showLines (registered : s.desk.registry.find? "cat-file" = some catFile)
    (positional : name.toList.head? ≠ some '-') : ∃ ctx remainder,
      Asks ctx.options (toString a) (toString b) name ∧
      ∀ reply e, runCatFile ctx { s.desk with trailing := remainder } = .ok reply e →
        ∃ t, dispatch (showLines a b name) s = .ok (.handled (reply.toSignal false)) t ∧
          t.desk.machine.output = e.machine.output := by
  let tokens := ["-l", "-s", toString a, "-e", toString b, name]
  obtain ⟨options, read, noHelp, asks⟩ := parse_showLines (a := a) (b := b) positional
  have first : splitFirst (trim (showLines a b name)) = ("cat-file", joinWords tokens) :=
    Words.splitFirst_joined (List.all_eq_true.mp (by decide +kernel)) (by decide) "-l" _
  have found := Registry.match?_of_find? (n := "cat-file") (congrArg Prod.fst first) (by decide)
    registered
  rw [first] at found
  dsimp only at found
  have splits : Splits ⟨catFile, "cat-file", joinWords tokens⟩ tokens := by
    have words : Words.split (joinWords tokens) = tokens := Words.split_joined tokens
    have whole := Splits.words (m := ⟨catFile, "cat-file", joinWords tokens⟩)
    dsimp only at whole
    rw [words] at whole
    exact whole rfl
  let ctx : Context :=
    ⟨catFile, showLines a b name, options, s.stack.top.scope, s.stack⟩
  refine ⟨ctx, joinWords tokens, asks, fun reply e done => ?_⟩
  have begins : (entered s ctx (joinWords tokens)).desk =
      { s.desk with trailing := joinWords tokens } := rfl
  have body : perform ctx (entered s ctx (joinWords tokens)) =
      .ok reply { entered s ctx (joinWords tokens) with desk := e } := by
    rw [perform_catFile rfl, ofDesk_apply, begins, done]
  have came := dispatchWith_admitted ⟨found, splits, read, noHelp⟩ perform
  exact ⟨_, came.trans (congrArg (concluded catFile) body), rfl⟩

section File

variable {full content : String} {bytes : List UInt8}
  (registered : s.desk.registry.find? "cat-file" = some catFile)
  (positional : name.toList.head? ≠ some '-')
  (leads : Path.expandPlain? s.desk.homes (Path.expand s.desk.homes name) = some full)
  (named : containsChar '\x00' full = false) (held : s.desk.files.read full = .ok bytes)
  (decodes : Utf8.decode bytes = .ok content)
include registered positional leads named held decodes

/-- What the line comes to, in terms of the body's own steps. -/
theorem showLines_shows (shortStart : (toString a.natAbs).length ≤ digitLimit)
    (shortStop : (toString b.natAbs).length ≤ digitLimit) :
    let range := lineRange (universalNewlines content) a b
    ∃ language t, dispatch (showLines a b name) s = .ok (.handled (.proceed none)) t ∧
      t.desk.machine.output = s.desk.machine.output ++
        s.desk.shown (drawn s.desk language range) := by
  intro range
  obtain ⟨ctx, remainder, asks, came⟩ :=
    dispatch_showLines (a := a) (b := b) registered positional
  obtain ⟨m, output, reads⟩ :=
    runCatFile_reads (d := { s.desk with trailing := remainder }) asks shortStart shortStop
  have read : readLines (({ s.desk with trailing := remainder } : Desk).after m)
      (Path.expand s.desk.homes name) a b = .ok range := readLines_eq leads named held decodes
  obtain ⟨language, e, shows, printed⟩ := showFile_shows asks read
  rw [shown_drawn_after] at printed
  obtain ⟨t, done, last⟩ := came _ e (reads.trans shows)
  refine ⟨language, t, done, ?_⟩
  rw [last, printed]
  exact congrArg (· ++ s.desk.shown (drawn s.desk language range)) output

/-- The line shows the lines of the file whose places are from one bound to the other, but for empty
ones at the end, in their order and each behind its number in the file. What is drawn in colours is
drawn from these lines and the number of the first one. -/
theorem file_lines_shown (shortStart : (toString a.natAbs).length ≤ digitLimit)
    (shortStop : (toString b.natAbs).length ≤ digitLimit) :
    let place (i : Int) : Int := if i < 0 then i + (lines content).length else i
    ∃ t shown dropped,
      dispatch (showLines a b name) s = .ok (.handled (.proceed none)) t ∧
      ((lines content).zipIdx.filter fun e => place a ≤ e.2 ∧ (e.2 : Int) ≤ place b) =
        shown ++ dropped ∧
      (∀ e ∈ dropped, e.1 = "") ∧
      (s.desk.color = false →
        t.desk.machine.output = s.desk.machine.output ++
          if Render.needsPager false s.desk.pager s.desk.terminal s.desk.rows
              (numberedText shown) then
            s.desk.outside.drawing.page false s.desk.columns (numberedText shown)
          else numberedText shown ++ "\n") ∧
      (s.desk.color = true → ∃ language start code,
        Render.plainSource (some start) code = numberedText shown ∧
        t.desk.machine.output = s.desk.machine.output ++ s.desk.shown (trimEndOf ['\n']
          (s.desk.outside.drawing.source s.desk.columns language (some start) code))) := by
  intro place
  obtain ⟨shown, dropped, chosen, empty, same, ends⟩ := exists_shown content a b
  obtain ⟨language, t, done, output⟩ :=
    showLines_shows registered positional leads named held decodes shortStart shortStop
  rw [drawn, Desk.highlighted] at output
  refine ⟨t, shown, dropped, done, chosen, empty, fun plain => ?_, fun colors => ?_⟩
  · rw [output, plain, if_neg (by decide), same, trimEndOf_eq ends, Desk.shown, plain,
      wholeLines_eq ends]
  · rw [colors, if_pos rfl] at output
    exact ⟨language, _, _, same, output⟩

end File

/-- A shell without colours at a small terminal, with one file. -/
def atTerminal (content : String) : State :=
  { fresh [] with desk := { (fresh []).desk with
      color := false
      terminal := true
      «variables» := [("LINES", "3"), ("COLUMNS", "8")]
      files := { nodes := [(["f"], .file (Utf8.encode content))] } } }

theorem atTerminal_leads (content : String) :
    let homes := (atTerminal content).desk.homes
    Path.expandPlain? homes (Path.expand homes "f") = some "f" :=
  (by decide +kernel : let homes := (fresh []).desk.homes
    Path.expandPlain? homes (Path.expand homes "f") = some "f")

/-- Lines that end in different ways, with bounds before and behind them. -/
theorem last_lines_shown :
    ∃ t, dispatch (showLines (-2) 5 "f") (atTerminal "a\x0cb\r\nc\n") =
        .ok (.handled (.proceed none)) t ∧
      t.desk.machine.output = "2: b\n3: c\n" := by
  obtain ⟨t, shown, dropped, done, chosen, empty, output, -⟩ :=
    file_lines_shown (s := atTerminal "a\x0cb\r\nc\n") (a := -2) (b := 5) rfl (by decide)
      (atTerminal_leads _) (by decide +kernel) rfl (Utf8.decode_encode _)
      (by decide +kernel) (by decide +kernel)
  have all : [("b", 1), ("c", 2)] = shown ++ dropped := by
    rw [← chosen]
    decide +kernel
  have none_ : dropped = [] := by
    refine List.eq_nil_iff_forall_not_mem.mpr fun e member => ?_
    have among : e ∈ [("b", 1), ("c", 2)] := by
      rw [all]
      exact List.mem_append_right _ member
    have blank := empty e member
    simp only [List.mem_cons, List.not_mem_nil, or_false] at among
    rcases among with rfl | rfl
    · exact absurd blank (by decide)
    · exact absurd blank (by decide)
  rw [none_, List.append_nil] at all
  refine ⟨t, done, (output rfl).trans ?_⟩
  rw [← all]
  decide +kernel

/-- A bound with one digit too many is refused. -/
theorem lines_not_shown :
    ∃ t, dispatch (showLines 1 (10 ^ 4300) "f") (atTerminal "a\nb\n") = .ok (.handled .skip) t ∧
      t.desk.machine.output = wholeLines
        ("error: --end expects an integer, got " ++ quoted (toString ((10 : Int) ^ 4300))) := by
  have positional : "f".toList.head? ≠ some '-' := by decide
  obtain ⟨ctx, remainder, asks, came⟩ :=
    dispatch_showLines (s := atTerminal "a\nb\n") (a := 1) (b := 10 ^ 4300) rfl positional
  have long : ¬ (toString ((10 : Int) ^ 4300).natAbs).length ≤ digitLimit := by
    rw [length_toString_pow]
    decide
  obtain ⟨e, refused, output⟩ := runCatFile_refuses
    (d := { (atTerminal "a\nb\n").desk with trailing := remainder }) asks (by decide) long
  obtain ⟨t, done, last⟩ := came _ e refused
  exact ⟨t, done, last.trans (output.trans String.empty_append)⟩

end Line

end NestShell.Commands

import NestShell.Proofs.Command.Aliases
import NestShell.Proofs.Commands.Desk
import NestShell.Proofs.History.Range
import NestShell.Proofs.History.Retention
import NestShell.Proofs.Options.Composition
import NestShell.Proofs.Shell.Containment
import NestShell.Proofs.Shell.Ledger
import NestShell.Proofs.Shell.Pages
import NestShell.Proofs.Text.Numbering

/-!
# The numbers of a listing

The history is listed with numbers, and a number is how an entry is asked for to be replayed. The
line that asks for it is recorded before it is looked up: where the history is full the first entry
gives way to it, and every number then stands for the next entry. Nor do the numbers stand for the
entries behind one in which a line ends, as it has several rows.
-/

namespace NestShell.HistoryOf

open NestShell.Text

/-- The entries, numbered from the oldest. -/
def listing (h : History) : String := numberLines 0 ("\n".intercalate h.entries)

end NestShell.HistoryOf

namespace NestShell.Shell

open NestShell.Text

/-! ## Lines whose bodies are quiet -/

/-- The reply of a body that gives nothing to be obeyed. -/
def Reply.IsQuiet (r : Reply) : Prop := r = .nothing ∨ r = .skip

section Quiet

variable {perform : Context → ShellM Reply} {s t : State} {f : Session} {line : String}
  {c : Command} {reply : Reply}

theorem handle_quiet (runs : s.begun.RunsTo perform line c (.ok reply t)) (quiet : reply.IsQuiet)
    (keeps : c.keepsValue = false) :
    handle perform line s = .ok none (s.marked (cleared t)) := by
  rw [handle_replies runs, keeps]
  obtain rfl | rfl := quiet
  · split <;> rfl
  · split <;> rfl

theorem handleText_quiet (runs : s.begun.RunsTo perform line c (.ok reply t))
    (quiet : reply.IsQuiet) (keeps : c.keepsValue = false) :
    handleText perform f line s = .ok (t.stack.contains f) (s.marked (cleared t)) := by
  rw [handleText_ok f (handle_quiet runs quiet keeps), show leavesTo f.level none = false from rfl,
    Bool.not_false, Bool.and_true]
  rfl

end Quiet

/-! ## Lines about the history -/

section Hist

variable {s : State} {f : Session} {line remainder : String} {h : History} {n : Nat}

theorem perform_hist {ctx : Context} (hist : ctx.command = Commands.hist) :
    Commands.perform ctx = ShellM.ofDesk (Commands.runHist ctx) := by
  unfold Commands.perform performing Commands.bodies
  rw [hist]
  rfl

/-- A line that is whole by itself and goes to the command `hist` with options. -/
structure AsksHist (d : Desk) (line remainder : String) (options : Options.Parsed) : Prop where
  alone : d.continuation = []
  last : continues line = false
  filled : isAllBlank line = false
  found : d.registry.match? line = some ⟨Commands.hist, "hist", remainder⟩
  read : ∃ tokens, Splits ⟨Commands.hist, "hist", remainder⟩ tokens ∧
    Options.parse Commands.hist.options tokens = .ok options
  noHelp : options.helpRequested = false

/-- A line with its command, as it comes to a quiet body. -/
theorem stepLoop_hist {options : Options.Parsed} {reply : Reply} {d : Desk}
    (asks : AsksHist s.desk line remainder options) (quiet : reply.IsQuiet)
    (done : ∀ ctx : Context, ctx.line = line → ctx.options = options → Commands.runHist ctx
      { recordLine line s.desk with status := 0, trailing := remainder } = .ok reply d) :
    ∃ t m, stepLoop Commands.perform f (.line line) s = .ok (s.stack.contains f) t ∧
      t.desk = { d with trailing := "", status := m } := by
  obtain ⟨tokens, splits, read⟩ := asks.read
  obtain ⟨took, desk⟩ := takeLine_whole (f := f) asks.alone asks.last asks.filled
  generalize handed : submitted f (taken f s line) line = u at took desk
  have contains : u.stack.contains f = s.stack.contains f := by
    rw [← handed, submitted_stack, Stack.note_contains, taken_stack,
      Stack.note_contains]
  have same : u.desk.registry = s.desk.registry := by rw [desk, recordLine_registry]
  have known : u.begun.desk.registry.match? line = some ⟨Commands.hist, "hist", remainder⟩ :=
    (congrArg (Registry.match? · line) same).trans asks.found
  let ctx : Context := ⟨Commands.hist, line, options, u.begun.stack.top.scope, u.begun.stack⟩
  have begins : (entered u.begun ctx remainder).desk =
      { recordLine line s.desk with status := 0, trailing := remainder } := by
    rw [← desk]
    rfl
  have runs : u.begun.RunsTo Commands.perform line Commands.hist
      (.ok reply { entered u.begun ctx remainder with desk := d }) := by
    refine ⟨_, tokens, options, ⟨known, splits, read, asks.noHelp⟩, rfl, ?_⟩
    change Commands.perform ctx (entered u.begun ctx remainder) = _
    rw [perform_hist rfl, ofDesk_apply, begins, done ctx rfl rfl]
  obtain ⟨m, marked⟩ := u.marked_eq (cleared { entered u.begun ctx remainder with desk := d })
  refine ⟨_, m, ?_, congrArg State.desk marked⟩
  rw [stepLoop, bind_apply, took]
  dsimp only
  rw [handleText_quiet runs quiet rfl, ← contains]
  rfl

/-- The history after a line was recorded. -/
theorem recordLine_append {d : Desk} (known : d.history = some h) :
    (recordLine line d).history = some (h.append line) := by
  rw [recordLine_history, known, Option.map_some, History.record_history]

/-- The line lists the history, to which it belongs by then. -/
theorem runHist_lists {ctx : Context} {d : Desk} (plain : ctx.options.isGiven "replay" = false)
    (known : d.history = some h) :
    Commands.runHist ctx d = .ok .nothing (d.printed (d.shown h.listing)) := by
  unfold Commands.runHist
  rw [plain, if_neg Bool.false_ne_true, bind_apply, get_apply]
  dsimp only
  rw [known, Option.map_some, Option.getD_some]
  have shown : DeskM.pageTrimmed false (numberLines 0 ("\n".intercalate h.entries)) d =
      .ok .unit (d.printed (d.shown h.listing)) := by
    rw [pageTrimmed_apply]
    exact congrArg (EStateM.Result.ok PUnit.unit <| d.printed <| d.shown ·)
      (trimEndOf_eq (numberLines_ends 0 _))
  rw [bind_apply, shown]
  rfl

/-- The line has the entry with the number replayed, if there is one before the line itself. -/
theorem runHist_replays {d : Desk} (short : (toString n).length ≤ digitLimit)
    (known : d.history = some h) (newest : h.entries.getLast? = some (trim line)) :
    ∃ reply e, reply.IsQuiet ∧ e.replay = d.replay ++ (h.entries.dropLast[n]?).toList ∧
      ∀ ctx : Context, ctx.line = line → ctx.options.isGiven "replay" = true →
        ctx.options.text? "replay" = some (toString n) →
        Commands.runHist ctx d = .ok reply e := by
  have others : Commands.replayable d.history line = h.entries.dropLast := by
    rw [known]
    unfold Commands.replayable
    dsimp only
    rw [newest, if_pos (beq_self_eq_true _)]
  have runs (ctx : Context) (same : ctx.line = line) (given : ctx.options.isGiven "replay" = true)
      (number : ctx.options.text? "replay" = some (toString n)) :=
    Commands.runHist_selects ctx (d := d) given number (History.Range.read_of_short short)
      (by rw [same, others, History.Range.select_single])
  cases entry : h.entries.dropLast[n]? with
  | none =>
    rw [entry] at runs
    refine ⟨.skip, _, .inr rfl, ?_, runs⟩
    exact (List.append_nil _).symm
  | some e =>
    rw [entry] at runs
    exact ⟨.nothing, _, .inl rfl, rfl, runs⟩

/-- The line that lists the history. -/
theorem hist_lists (known : s.desk.history = some h)
    (registered : s.desk.registry.find? "hist" = some Commands.hist)
    (alone : s.desk.continuation = []) :
    ∃ t, stepLoop Commands.perform f (.line "hist") s = .ok (s.stack.contains f) t ∧
      t.desk.history = some (h.append "hist") ∧ t.desk.registry = s.desk.registry ∧
      t.desk.continuation = [] ∧ t.desk.replay = s.desk.replay ∧
      t.desk.machine.output = s.desk.machine.output ++ s.desk.shown (h.append "hist").listing := by
  have word : splitFirst (trim "hist") = ("hist", "") := by decide +kernel
  have found := Registry.match?_of_find? (n := "hist") (congrArg Prod.fst word) (by decide)
    registered
  rw [word] at found
  have read : Options.parse Commands.hist.options (Words.split "") =
      .ok (.start Commands.hist.options) := by
    rw [show Words.split "" = [] from rfl, Options.parse_eq rfl (by simp),
      Options.course_nil]
    rfl
  have asks : AsksHist s.desk "hist" "" (.start Commands.hist.options) :=
    ⟨alone, by decide +kernel, by decide +kernel, found, ⟨_, .words (by decide +kernel), read⟩, rfl⟩
  obtain ⟨t, m, stepped, desk⟩ := stepLoop_hist (f := f) asks (.inl rfl)
    fun ctx _ options => runHist_lists (by rw [options]; rfl) (recordLine_append known)
  obtain ⟨history, files, recorded⟩ := recordLine_eq s.desk "hist"
  refine ⟨t, stepped, ?_⟩
  rw [desk]
  unfold Desk.printed
  dsimp only
  refine ⟨recordLine_append known, recordLine_registry .., ?_, recordLine_replay .., ?_⟩
  · rw [recorded]
    exact alone
  · rw [recorded]
    rfl

/-- A line that asks for the entry with a number. -/
def askingFor (n : Nat) : String := "hist -r " ++ toString n

theorem toList_askingFor :
    (askingFor n).toList = ['h', 'i', 's', 't', ' ', '-', 'r', ' '] ++ (toString n).toList :=
  String.toList_append

theorem trimmed_askingFor : Trimmed (askingFor n).toList := by
  have front : Trimmed ['h'] := .single (by decide)
  have around := front.around (trimmed_toString (n := n)) (by simp) toList_toString_ne_nil
    ['i', 's', 't', ' ', '-', 'r', ' ']
  rw [toList_askingFor]
  exact around

/-- The command's word and the rest of the line. -/
theorem splitFirst_askingFor : splitFirst (askingFor n) = ("hist", "-r " ++ toString n) := by
  have rest : String.ofList ('-' :: 'r' :: ' ' :: (toString n).toList) = "-r " ++ toString n := by
    rw [← String.toList_inj, String.toList_ofList, String.toList_append]
    rfl
  unfold splitFirst
  rw [trimmed_askingFor.trimBy_eq, toList_askingFor, ← rest]
  rfl

/-- A line that ends in a digit goes on nowhere. -/
theorem continues_askingFor : continues (askingFor n) = false := by
  unfold continues endsWith
  rw [trimmed_askingFor.trimEnd_eq, toList_askingFor, Bool.eq_false_iff, Ne,
    List.isSuffixOf_iff_suffix]
  rintro ⟨front, same⟩
  have last := congrArg List.getLast? same
  rw [List.getLast?_append_of_ne_nil _ toList_toString_ne_nil,
    List.getLast?_append_of_ne_nil _ (by decide)] at last
  cases isDigit_of_mem_toString (List.mem_of_mem_getLast? last.symm)

theorem isAllBlank_askingFor : isAllBlank (askingFor n) = false := by
  unfold isAllBlank
  rw [toList_askingFor]
  rfl

/-- The words of the line behind its command. -/
theorem split_number : Words.split ("-r " ++ toString n) = ["-r", toString n] := by
  have plain : Words.quote (toString n) = toString n := by
    have digits : (toString n).toList.all Words.isPlain = true := by
      rw [List.all_eq_true]
      intro c member
      simp [Words.isPlain, Char.isAlphanum, isDigit_of_mem_toString member]
    unfold Words.quote
    rw [if_neg (by simp), if_pos digits]
  have written : " ".intercalate (["-r", toString n].map Words.quote) = "-r " ++ toString n := by
    have mark : Words.quote "-r" = "-r" := by decide +kernel
    have space : "-r " = "-r" ++ " " := by decide +kernel
    rw [List.map_cons, List.map_singleton, plain, mark, String.intercalate_cons_cons,
      String.intercalate_singleton, space]
  rw [← written, Words.split_joined]

theorem isFault_number : Words.isFault ["-r", toString n] = false := by
  change Words.faultMark.toList.isPrefixOf (toString n).toList = false
  rw [Bool.eq_false_iff, Ne, List.isPrefixOf_iff_prefix]
  rintro ⟨rest, same⟩
  exact toString_ne_signed (c := '#') rfl ("parse-error".toList ++ rest) same.symm

theorem parse_number : ∃ options,
    Options.parse Commands.hist.options ["-r", toString n] = .ok options ∧
      options.helpRequested = false ∧ options.isGiven "replay" = true ∧
      options.text? "replay" = some (toString n) := by
  have tokens : Commands.hist.options.helpTokens = ["-h", "--help"] := rfl
  have plain : ∀ token ∈ ["-r", toString n], token ∉ Commands.hist.options.helpTokens := by
    have number (mark : String) (dash : mark.toList.head? = some '-') : toString n ≠ mark := by
      rintro rfl
      cases isDigit_of_mem_toString (List.mem_of_mem_head? dash)
    have apart : toString n ≠ "-h" ∧ toString n ≠ "--help" :=
      ⟨number "-h" (by decide +kernel), number "--help" (by decide +kernel)⟩
    rw [tokens]
    simpa using apart
  obtain ⟨options, read, facts⟩ : ∃ options,
      Options.readToken Commands.hist.options "-r" (.start Commands.hist.options) [toString n] =
        .ok (.more options []) ∧ options.helpRequested = false ∧
          options.isGiven "replay" = true ∧ options.text? "replay" = some (toString n) :=
    ⟨_, rfl, rfl, rfl, rfl⟩
  refine ⟨options, ?_, facts⟩
  rw [Options.parse_eq rfl plain, Options.course_more read, Options.course_nil]
  rfl

/-- The line that has an entry replayed. It is the newest entry itself by then. -/
theorem hist_replays (known : s.desk.history = some h)
    (registered : s.desk.registry.find? "hist" = some Commands.hist)
    (alone : s.desk.continuation = []) (short : (toString n).length ≤ digitLimit) :
    ∃ t, stepLoop Commands.perform f (.line (askingFor n)) s = .ok (s.stack.contains f) t ∧
      t.desk.replay =
        s.desk.replay ++ ((h.append (askingFor n)).entries.dropLast[n]?).toList := by
  have whole : trim (askingFor n) = askingFor n := trimmed_askingFor.trim_eq
  have word : splitFirst (trim (askingFor n)) = ("hist", "-r " ++ toString n) := by
    rw [whole, splitFirst_askingFor]
  have found := Registry.match?_of_find? (n := "hist") (congrArg Prod.fst word) (by decide)
    registered
  rw [word] at found
  dsimp only at found
  obtain ⟨options, read, noHelp, given, number⟩ := parse_number (n := n)
  rw [← split_number] at read
  have newest : (h.append (askingFor n)).entries.getLast? = some (trim (askingFor n)) :=
    History.getLast?_append (by rw [whole]; simp [askingFor])
  generalize begun : ({ recordLine (askingFor n) s.desk with
    status := 0, trailing := "-r " ++ toString n } : Desk) = d
  have recorded : d.history = some (h.append (askingFor n)) := by
    rw [← begun]
    change (recordLine (askingFor n) s.desk).history = _
    exact recordLine_append known
  obtain ⟨reply, e, quiet, replay, done⟩ := runHist_replays short recorded newest
  rw [← begun] at done replay
  have asks : AsksHist s.desk (askingFor n) ("-r " ++ toString n) options :=
    ⟨alone, continues_askingFor, isAllBlank_askingFor, found,
      ⟨_, .words (by rw [split_number, isFault_number]), read⟩, noHelp⟩
  obtain ⟨t, m, stepped, desk⟩ := stepLoop_hist (f := f) asks quiet
    fun ctx same reads => done ctx same (by rw [reads, given]) (by rw [reads, number])
  refine ⟨t, stepped, ?_⟩
  rw [desk]
  dsimp only at replay ⊢
  rw [replay, recordLine_replay]

/-- The entries before a line that asks for a number of the listing. -/
theorem listed_before_asking :
    let listed := (h.append "hist").entries
    ((h.append "hist").append (askingFor n)).entries.dropLast =
      listed.drop (listed.length + 1 - h.limit) := by
  have whole : trim (askingFor n) = askingFor n := trimmed_askingFor.trim_eq
  have other : trim "hist" ≠ askingFor n := by
    intro same
    have chars := congrArg String.toList same
    have word : (trim "hist").toList = ['h', 'i', 's', 't'] := by decide +kernel
    rw [toList_askingFor, word] at chars
    simp at chars
  have newest : (h.append "hist").entries.getLast? = some (trim "hist") :=
    History.getLast?_append (by decide +kernel)
  have new : (h.append "hist").entries.getLast? ≠ some (trim (askingFor n)) := by
    rw [newest, whole]
    exact fun same => other (Option.some.inj same)
  intro listed
  rw [History.dropLast_append (by rw [whole]; simp [askingFor]) new, History.append_limit]

/-- The line `hist` lists the history, to which it belongs by then. The line that asks for a number
of the listing, read after it, has the entry replayed that has the number by then: if the history is
full, the first entries of the listing have given way to that line. So a number stands for what is
listed with it as long as there is room for one more entry and no line ends within the entries up to
there. A number of too many digits is not read at all. -/
theorem listed_number_replays (known : s.desk.history = some h)
    (registered : s.desk.registry.find? "hist" = some Commands.hist)
    (alone : s.desk.continuation = []) (f : Session) :
    let listed := (h.append "hist").entries
    ∃ t, stepLoop Commands.perform f (.line "hist") s = .ok (s.stack.contains f) t ∧
      t.desk.machine.output = s.desk.machine.output ++ s.desk.shown (h.append "hist").listing ∧
      t.desk.replay = s.desk.replay ∧
      ∀ u : State, Reads t.desk u.desk → ∀ n e, Numbers (h.append "hist").listing n e →
        (toString n).length ≤ digitLimit →
        ∃ v, stepLoop Commands.perform f (.line ("hist -r " ++ toString n)) u =
            .ok (u.stack.contains f) v ∧
          v.desk.replay =
            u.desk.replay ++ ((listed.drop (listed.length + 1 - h.limit))[n]?).toList ∧
          (listed.length < h.limit →
            (∀ x ∈ listed.take (n + 1), ∀ c ∈ x.toList, isLineEnd c = false) →
            v.desk.replay = u.desk.replay ++ [e]) := by
  intro listed
  obtain ⟨t, stepped, history, registry, ends, idle, output⟩ :=
    hist_lists (f := f) known registered alone
  refine ⟨t, stepped, output, idle, fun u reads n e numbers short => ?_⟩
  have found : u.desk.registry.find? "hist" = some Commands.hist := by
    rw [Registry.find?, reads.commands, registry]
    exact registered
  obtain ⟨v, asked, replay⟩ := hist_replays (s := u) (f := f) (n := n)
    (reads.history.trans history) found (reads.continuation.trans ends) short
  rw [listed_before_asking] at replay
  refine ⟨v, asked, replay, fun room unbroken => ?_⟩
  have entry : listed[n]? = some e := text_of_line unbroken (numbers_numberLines.mp numbers)
  rw [replay, Nat.sub_eq_zero_of_le room, List.drop_zero, entry]
  rfl

end Hist

/-! ## Histories with and without room -/

/-- A shell that has read no line, with a history. -/
def holding (h : History) : State :=
  { fresh [] with desk := { (fresh []).desk with history := some h } }

/-- There is room for the line that asks, and the number stands for what is listed with it. -/
theorem roomy_history_replays :
    let h : History := { entries := ["1"], limit := 4 }
    let f := (holding h).stack.base
    ∃ t v, stepLoop Commands.perform f (.line "hist") (holding h) = .ok true t ∧
      t.desk.machine.output = "0: 1\n1: hist\n" ∧ Numbers "0: 1\n1: hist" 0 "1" ∧
      stepLoop Commands.perform f (.line "hist -r 0") t = .ok (t.stack.contains f) v ∧
      v.desk.replay = ["1"] := by
  intro h f
  have listing : (h.append "hist").listing = "0: 1\n1: hist" := by decide +kernel
  have numbers : Numbers (h.append "hist").listing 0 "1" :=
    numbers_numberLines.mpr (by decide +kernel)
  have listed : (h.append "hist").entries = ["1", "hist"] := by decide +kernel
  have unbroken : ∀ x ∈ (h.append "hist").entries.take 1, ∀ c ∈ x.toList, isLineEnd c = false := by
    rw [listed]
    simp [isLineEnd]
  obtain ⟨t, stepped, output, idle, asks⟩ := listed_number_replays (s := holding h) rfl rfl rfl f
  obtain ⟨v, asked, -, replays⟩ := asks t {} 0 "1" numbers (by decide +kernel)
  refine ⟨t, v, stepped, ?_, listing ▸ numbers, asked, ?_⟩
  · rw [output, listing]
    decide +kernel
  · rw [replays (by rw [listed]; exact (by decide : 2 < 4)) unbroken, idle]
    rfl

/-- What the lines come to, whether or not there is room. -/
theorem holding_replays (h : History) {n : Nat} (short : (toString n).length ≤ digitLimit) :
    let f := (holding h).stack.base
    let listed := (h.append "hist").entries
    ∃ t v, stepLoop Commands.perform f (.line "hist") (holding h) = .ok true t ∧
      t.desk.machine.output = (holding h).desk.shown (h.append "hist").listing ∧
      stepLoop Commands.perform f (.line (askingFor n)) t = .ok (t.stack.contains f) v ∧
      v.desk.replay = ((listed.drop (listed.length + 1 - h.limit))[n]?).toList := by
  intro f listed
  obtain ⟨t, stepped, history, registry, ends, idle, output⟩ :=
    hist_lists (s := holding h) (f := f) rfl rfl rfl
  have registered : t.desk.registry.find? "hist" = some Commands.hist := by
    rw [registry]
    rfl
  obtain ⟨v, asked, replay⟩ := hist_replays (f := f) history registered ends short
  refine ⟨t, v, stepped, ?_, asked, ?_⟩
  · rw [output]
    exact String.empty_append
  · rw [replay, idle, listed_before_asking]
    rfl

/-- In a full history the line that asks for the first entry has the second one replayed, and so has
a line that asks for an entry behind one with two rows, though there is room. -/
theorem listings_mislead :
    (let f := (holding { entries := ["1"], limit := 2 }).stack.base
    ∃ t v, stepLoop Commands.perform f (.line "hist") (holding { entries := ["1"], limit := 2 }) =
        .ok true t ∧
      t.desk.machine.output = "0: 1\n1: hist\n" ∧ Numbers "0: 1\n1: hist" 0 "1" ∧
      stepLoop Commands.perform f (.line "hist -r 0") t = .ok (t.stack.contains f) v ∧
      v.desk.replay = ["hist"]) ∧
    let f := (holding { entries := ["a\x0bb", "2"], limit := 4 }).stack.base
    ∃ t v, stepLoop Commands.perform f (.line "hist")
        (holding { entries := ["a\x0bb", "2"], limit := 4 }) = .ok true t ∧
      t.desk.machine.output = "0: a\n1: b\n2: 2\n3: hist\n" ∧
      Numbers "0: a\n1: b\n2: 2\n3: hist" 2 "2" ∧
      stepLoop Commands.perform f (.line "hist -r 2") t = .ok (t.stack.contains f) v ∧
      v.desk.replay = ["hist"] := by
  constructor
  · let h : History := { entries := ["1"], limit := 2 }
    have listing : (h.append "hist").listing = "0: 1\n1: hist" := by decide +kernel
    have numbers : Numbers (h.append "hist").listing 0 "1" :=
      numbers_numberLines.mpr (by decide +kernel)
    obtain ⟨t, v, stepped, output, asked, replay⟩ :=
      holding_replays h (n := 0) (by decide +kernel)
    refine ⟨t, v, stepped, output.trans ?_, listing ▸ numbers, asked, replay⟩
    rw [listing]
    decide +kernel
  · let h : History := { entries := ["a\x0bb", "2"], limit := 4 }
    have listing : (h.append "hist").listing = "0: a\n1: b\n2: 2\n3: hist" := by decide +kernel
    have numbers : Numbers (h.append "hist").listing 2 "2" :=
      numbers_numberLines.mpr (by decide +kernel)
    obtain ⟨t, v, stepped, output, asked, replay⟩ :=
      holding_replays h (n := 2) (by decide +kernel)
    refine ⟨t, v, stepped, output.trans ?_, listing ▸ numbers, asked, replay⟩
    rw [listing]
    decide +kernel

end NestShell.Shell

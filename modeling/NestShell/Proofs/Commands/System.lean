import NestShell.Proofs.Command.Aliases
import NestShell.Proofs.Commands.Catalog
import NestShell.Proofs.Pattern.Match
import NestShell.Proofs.Shell.Admission
import NestShell.Proofs.Shell.Line
import NestShell.Proofs.Text.Arguments

/-!
# Lines for the system's command interpreter

Two commands write their arguments into a line of their own for the system's command interpreter:
one hands it over by itself, the other by way of the shell, whose pattern for such lines takes all
that follows the point. The line that is handed over has the arguments as its words.
-/

namespace NestShell.Shell

/-- The line that a call hands to the system's command interpreter. -/
def Call.shellLine? : Call → Option String
  | .systemCommand line | .commandLine line _ => some line
  | .random .. | .program .. => none

/-- The lines that were handed to the system's command interpreter, the latest first. -/
def Desk.handed (d : Desk) : List String := d.calls.filterMap Call.shellLine?

/-- What was asked of the world outside is the same. -/
def SameCalls (d e : Desk) : Prop := e.calls = d.calls

instance : IsPreorder Desk SameCalls where
  refl _ := rfl
  trans _ _ _ first second := second.trans first

theorem SameCalls.handed {d e : Desk} (same : SameCalls d e) : e.handed = d.handed :=
  congrArg (List.filterMap Call.shellLine?) same

/-- One more line was handed to the system's command interpreter. -/
def Hands (line : String) (d e : Desk) : Prop := e.handed = line :: d.handed

section Desk

open DeskM

variable {α β : Type}

instance sameCalls_ofRun (p : Code.Run α) : Stays SameCalls (ofRun p) := by
  refine ⟨fun d => ?_⟩
  unfold ofRun
  rcases p d.lent with _ | ⟨_ | _⟩ <;> rfl

instance sameCalls_write (text : String) : Stays SameCalls (write text) := .modify fun _ => rfl

instance sameCalls_puts (text : String) : Stays SameCalls (puts text) := by
  unfold puts
  infer_instance

instance sameCalls_putsError (text : String) : Stays SameCalls (putsError text) := by
  unfold putsError
  infer_instance

instance sameCalls_isA (e : Nat) (className : String) : Stays SameCalls (isA e className) := by
  unfold isA
  infer_instance

instance sameCalls_errorText (e : Nat) : Stays SameCalls (errorText e) := by
  unfold errorText
  infer_instance

instance sameCalls_lastException (e : Nat) :
    Stays SameCalls (modify fun d => { d with lastException := some e } : DeskM PUnit) :=
  .modify fun _ => rfl

instance sameCalls_report (e : Nat) : Stays SameCalls (report e) := by
  unfold report
  infer_instance

/-- After a line was handed over nothing else is asked. -/
theorem hands_bind {line : String} {p : DeskM α} {f : α → DeskM β} (hp : Stays (Hands line) p)
    (hf : ∀ a, Stays SameCalls (f a)) : Stays (Hands line) (p >>= f) := by
  refine ⟨fun d => ?_⟩
  rw [bind_apply]
  cases done : p d with
  | ok a e => exact ((hf a).within e).handed.trans (hp.of_ok done)
  | error stop e => exact hp.of_error done

/-- What is made of a value does not matter to the state. -/
theorem endState_discard {σ : Type} (p : EStateM Stop σ α) (b : β) (s : σ) :
    endState ((do let _ ← p; return b : EStateM Stop σ β) s) = endState (p s) := by
  rw [bind_apply]
  cases p s <;> rfl

end Desk

/-- Nothing was asked of the world outside, and the sessions were left alone. -/
def Quiet (s t : State) : Prop := t.stack = s.stack ∧ SameCalls s.desk t.desk

instance : IsPreorder State Quiet where
  refl _ := ⟨rfl, rfl⟩
  trans _ _ _ first second := ⟨second.1.trans first.1, second.2.trans first.2⟩

instance quiet_ofDesk {α : Type} (p : DeskM α) [quiet : Stays SameCalls p] :
    Stays Quiet (ShellM.ofDesk p) :=
  stays_ofDesk_of p quiet fun same => ⟨rfl, same⟩

instance quiet_recover (c : Command) (e : Stop) : Stays Quiet (recover c e) := by
  cases e <;> unfold recover <;> infer_instance

/-- What follows a body asks nothing and leaves the sessions alone. -/
theorem concluded_quiet (c : Command) (r : EStateM.Result Stop State Reply) :
    (endState (concluded c r)).stack = (endState r).stack ∧
      (endState (concluded c r)).desk.handed = (endState r).desk.handed := by
  cases r with
  | ok reply t => exact ⟨rfl, rfl⟩
  | error e t =>
    unfold concluded
    dsimp only
    cases done : recover c e t with
    | ok signal u =>
      obtain ⟨stack, calls⟩ := (quiet_recover c e).of_ok done
      exact ⟨stack, calls.handed⟩
    | error stop u =>
      obtain ⟨stack, calls⟩ := (quiet_recover c e).of_error done
      exact ⟨stack, calls.handed⟩

end NestShell.Shell

namespace NestShell.Commands

open NestShell.Text NestShell.Shell NestShell.Pattern NestShell.Pattern.Match

instance sameCalls_throwNoProgram {α : Type} (name : String) :
    Stays SameCalls (throwNoProgram name : DeskM α) := by
  unfold throwNoProgram
  infer_instance

/-- The line is handed over, also where there is no program to take it. -/
theorem hands_systemCommand (line : String) : Stays (Hands line) (systemCommand line) := by
  have hands (c : Call) (carries : c.shellLine? = some line) : Stays (Hands line) (DeskM.ask c) :=
    .modify fun d => List.filterMap_cons_some carries
  unfold systemCommand
  refine .get_bind fun d => ?_
  cases d.outside.shellStatus with
  | some status =>
    exact (hands_bind (hands (.systemCommand line) rfl) fun _ => stays_pure status).within d
  | none =>
    refine (hands_bind (hands (.commandLine line !d.terminal) rfl) fun _ => ?_).within d
    cases d.outside.program <;> infer_instance

/-- A request for packages is handed over as one line, if it names any. -/
theorem handed_runPipInstall (ctx : Context) (d : Desk) :
    (endState (runPipInstall ctx d)).handed =
      if ctx.args.isEmpty then d.handed
      else joinWords ([d.interpreter, "-m", "pip", "install"] ++ ctx.args) :: d.handed := by
  unfold runPipInstall
  by_cases nothing : ctx.args.isEmpty = true
  · rw [if_pos nothing, if_pos nothing]
    rfl
  · rw [if_neg nothing, if_neg nothing, bind_apply, puts_apply]
    refine (hands_bind (hands_systemCommand _) fun status => ?_).within _
    infer_instance

/-! ## The pattern for such lines -/

/-- The pattern takes all of a line that begins with a point, and keeps what follows the point. -/
theorem afterPoint_matches (rest : String) :
    afterPoint.matchStart? ("." ++ rest) =
      some ⟨rest.length + 1, [some (1, rest.length + 1)]⟩ := by
  unfold Pattern.matchStart? Pattern.matchAt?
  have chars : ("." ++ rest).toList.toArray = ('.' :: rest.toList).toArray := by
    rw [String.toList_append]
    rfl
  rw [chars]
  generalize size : ('.' :: rest.toList).toArray = cs
  have length : cs.size = rest.length + 1 := by simp [← size, String.length_toList]
  have first : cs[0]? = some '.' := by simp [← size]
  obtain ⟨fuel, deep⟩ : ∃ fuel, depth cs.size = fuel + cs.size + 10 :=
    ⟨depth cs.size - (cs.size + 10), by unfold depth; omega⟩
  rw [deep]
  simp only [afterPoint, nodes_cons, nodes_nil, node, step, first, List.replicate_one, isAt]
  rw [if_pos (by decide), if_pos (by decide)]
  have ends : (cs.size == cs.size) = true := beq_self_eq_true _
  have left : 1 + rest.length = cs.size := by omega
  refine (repeats_any (by decide) left (by omega) (by simp) ?_).trans ?_
  · dsimp only
    rw [ends, Bool.true_or, if_pos rfl]
    rfl
  · dsimp only
    rw [ends, Bool.true_or, if_pos rfl, length]
    rfl

/-- A pattern that has groups leaves what the first of them matched. -/
theorem matchPattern_eq {c : Command} {p : Pattern} (pattern : c.pattern = some p)
    (grouped : (p.groups == 0) = false) (line : String) :
    c.matchPattern? line = (p.matchStart? line).map fun m => (m.group? line 1).getD "" := by
  unfold Command.matchPattern?
  rw [pattern, Option.bind_eq_bind, Option.bind_some]
  cases p.matchStart? line with
  | none => rfl
  | some m => simp [grouped]

theorem matchPattern_shellEscape (rest : String) :
    shellEscape.matchPattern? ("." ++ rest) = some rest := by
  have kept : Point.group? ⟨rest.length + 1, [some (1, rest.length + 1)]⟩ ("." ++ rest) 1 =
      some rest := by
    unfold Point.group?
    simp [spanOf?, String.toList_append, ← String.length_toList]
  have pattern : shellEscape.pattern = some afterPoint := rfl
  rw [matchPattern_eq pattern rfl, afterPoint_matches, Option.map_some, kept, Option.getD_some]

/-- A built-in name that begins with a point has a blank. -/
theorem point_unlisted {word : String} (point : word.toList.head? = some '.')
    (ink : ∀ c ∈ word.toList, isBlank c = false) : word ∉ registry.names := by
  have all : registry.names.all fun name =>
      name.toList.head? != some '.' || name.toList.any isBlank := by decide +kernel
  intro listed
  have name := List.all_eq_true.mp all word listed
  simp only [point, bne_self_eq_false, Bool.false_or, List.any_eq_true] at name
  obtain ⟨c, member, blank⟩ := name
  rw [ink c member] at blank
  cases blank

theorem toList_point (line : String) : ("." ++ line).toList = '.' :: line.toList := by
  rw [String.toList_append]
  rfl

theorem trimmed_point {line : String} (trimmed : Trimmed line.toList)
    (filled : line.toList ≠ []) : Trimmed ("." ++ line).toList := by
  have point : Trimmed ['.'] := .single (by decide)
  have around := point.around trimmed (by simp) filled []
  rw [toList_point]
  simpa using around

/-- A line that begins with a point goes to the system's command interpreter without it. -/
theorem match?_point {line : String} (trimmed : Trimmed line.toList) (filled : line.toList ≠ []) :
    ∃ word, registry.match? ("." ++ line) = some ⟨shellEscape, word, line⟩ := by
  have whole := trimmed_point trimmed filled
  have first : (splitFirst ("." ++ line)).1.toList =
      '.' :: line.toList.takeWhile fun c => !isBlank c := by
    rw [whole.splitFirst_word, toList_point, List.takeWhile_cons_of_pos (by decide)]
  have unknown : registry.lookup (splitFirst ("." ++ line)).1 = none := by
    refine Registry.lookup_eq_none (point_unlisted ?_ fun c member => ?_)
    · rw [first, List.head?_cons]
    · rw [whole.splitFirst_word] at member
      simpa using List.all_eq_true.mp List.all_takeWhile c member
  have patterns : registry.patterns = [shellEscape] := rfl
  rw [← whole.trim_eq] at unknown
  refine ⟨_, Registry.match?_of_pattern ?_ unknown patterns ?_⟩
  · rw [whole.trim_eq]
    simp
  · rw [whole.trim_eq, matchPattern_shellEscape]

/-! ## What the lines come to -/

/-- The text of a line for the system's command interpreter is handed over, unless it asks for
another directory. -/
theorem hands_runShellEscape {d : Desk} {line : String} (text : d.trailing = line)
    (trimmed : Trimmed line.toList) (filled : line.toList ≠ [])
    (elsewhere : (splitFirst line).1 ≠ "cd") :
    (endState (runShellEscape d)).handed = line :: d.handed := by
  have nonempty : line.isEmpty ≠ true := by simpa using filled
  unfold runShellEscape
  rw [bind_apply, get_apply]
  dsimp only
  rw [text, trimmed.trim_eq, if_neg nonempty, if_neg (by simpa using elsewhere)]
  exact (hands_bind (hands_systemCommand line) fun _ => inferInstance).within d

/-- A command without flags takes all tokens. -/
theorem splits_shellEscape (word line : String) :
    ∃ tokens, Splits ⟨shellEscape, word, line⟩ tokens := by
  by_cases fault : Words.isFault (Words.split line) = true
  · exact ⟨_, .blanks fault rfl⟩
  · exact ⟨_, .words (Bool.eq_false_iff.mpr fault)⟩

/-- A line that begins with a point is handed over without it, by the command for such lines. -/
theorem handed_point {s : State} {line : String} (builtin : s.desk.registry = registry)
    (trimmed : Trimmed line.toList) (filled : line.toList ≠ [])
    (elsewhere : (splitFirst line).1 ≠ "cd") (back : Reentry) :
    let t := endState (dispatchWith (bodies back) ("." ++ line) s)
    t.stack = s.stack.note s.stack.top (.runs shellEscape line) s.desk.waiting ∧
      t.desk.handed = line :: s.desk.handed := by
  intro t
  obtain ⟨word, found⟩ := match?_point trimmed filled
  rw [← builtin] at found
  obtain ⟨tokens, splits⟩ := splits_shellEscape word line
  have admitted := dispatchWith_admitted ⟨found, splits, rfl, rfl⟩ (bodies back)
  dsimp only at admitted
  generalize context : Context.mk .. = ctx at admitted
  have body : bodies back ctx = ShellM.ofDesk runShellEscape := by
    rw [← context]
    rfl
  obtain ⟨stack, handed⟩ := concluded_quiet shellEscape (bodies back ctx (entered s ctx line))
  have hands : (endState (runShellEscape (entered s ctx line).desk)).handed =
      line :: s.desk.handed := hands_runShellEscape rfl trimmed filled elsewhere
  have ends : endState (bodies back ctx (entered s ctx line)) =
      { entered s ctx line with desk := endState (runShellEscape (entered s ctx line).desk) } := by
    rw [body, ofDesk_apply]
    cases runShellEscape (entered s ctx line).desk <;> rfl
  have noted : (entered s ctx line).stack =
      s.stack.note s.stack.top (.runs shellEscape line) s.desk.waiting := by
    rw [← context]
    rfl
  rw [← admitted, ends] at stack handed
  dsimp only at stack handed
  exact ⟨stack.trans noted, handed.trans hands⟩

/-- The first word of written arguments is another directory's command only if an argument is. -/
theorem first_joinWords {a b : String} {ws : List String}
    (first : (splitFirst (joinWords (a :: b :: ws))).1 = "cd") : a = "cd" := by
  have word := (Words.trimmed_joined a (b :: ws)).1.splitFirst_word
  rw [Words.toList_joined] at word
  change (splitFirst (joinWords (a :: b :: ws))).1.toList = _ at word
  rw [first] at word
  obtain ⟨written, plain⟩ | marked := Words.quote_plain_or_marked a
  · have ink : ∀ c ∈ (Words.quote a).toList, (!isBlank c) = true := by
      rw [written]
      exact fun c member => by simp [Words.isBlank_of_isPlain (plain c member)]
    rw [List.takeWhile_append_of_pos ink, List.takeWhile_cons_of_neg (by decide), List.append_nil,
      written] at word
    exact String.toList_inj.mp word.symm
  · cases chars : (Words.quote a).toList with
    | nil => simp [chars] at marked
    | cons c cs =>
      rw [chars, List.head?_cons, Option.some.injEq] at marked
      rw [chars, marked, List.cons_append, List.takeWhile_cons_of_pos (by decide)] at word
      exact absurd (List.cons.inj word).1 (by decide)

/-- The line that asks for documentation. -/
theorem pydoc_line (interpreter : String) (args : List String) :
    trimEnd ("." ++ Words.quote interpreter ++ " -m pydoc " ++ joinWords args) =
      "." ++ joinWords (interpreter :: "-m" :: "pydoc" :: args) := by
  have joined (a b : String) (ws : List String) :
      joinWords (a :: b :: ws) = Words.quote a ++ " " ++ joinWords (b :: ws) :=
    String.intercalate_cons_cons
  have whole : Trimmed ("." ++ joinWords (interpreter :: "-m" :: "pydoc" :: args)).toList := by
    obtain ⟨trimmed, filled⟩ := Words.trimmed_joined interpreter ("-m" :: "pydoc" :: args)
    exact trimmed_point trimmed filled
  have marks : Words.quote "-m" = "-m" ∧ Words.quote "pydoc" = "pydoc" := by decide +kernel
  have between : " -m pydoc " = " " ++ "-m" ++ " " ++ "pydoc" ++ " " := by decide +kernel
  cases args with
  | nil =>
    have last : joinWords ["pydoc"] = "pydoc" := by decide +kernel
    have text : "." ++ Words.quote interpreter ++ " -m pydoc " ++ joinWords [] =
        "." ++ joinWords [interpreter, "-m", "pydoc"] ++ " " := by
      rw [joined, joined, last, marks.1, between, show joinWords [] = "" from rfl]
      simp only [String.append_assoc, String.append_empty]
    rw [text, whole.trimEnd_append_blank]
  | cons a args =>
    have text : "." ++ Words.quote interpreter ++ " -m pydoc " ++ joinWords (a :: args) =
        "." ++ joinWords (interpreter :: "-m" :: "pydoc" :: a :: args) := by
      rw [joined, joined, joined, marks.1, marks.2, between]
      simp only [String.append_assoc]
    rw [text, whole.trimEnd_eq]

/-- A request for documentation goes to the shell as a line for the system's command interpreter. -/
theorem runPydoc_dispatches (back : Reentry) (ctx : Context) (s : State) :
    runPydoc back ctx s = (do
      let _ ← back.run ("." ++ joinWords (s.desk.interpreter :: "-m" :: "pydoc" :: ctx.args))
      return Reply.nothing) s := by
  unfold runPydoc
  rw [bind_apply, get_apply]
  dsimp only
  rw [pydoc_line]

/-- Arguments reach the system's command interpreter whole. The line that asks for packages is
handed over as it is, and the line that asks for documentation by way of the shell: a point stands
before it there, its first word names no command, and the pattern for such lines takes it as it is.
Each line has the interpreter's path, the words of the request and the arguments as its words. -/
theorem arguments_handed_whole (ctx : Context) :
    (∀ d : Desk,
      (ctx.args = [] → (endState (runPipInstall ctx d)).handed = d.handed) ∧
      (ctx.args ≠ [] → ∃ line, (endState (runPipInstall ctx d)).handed = line :: d.handed ∧
        Words.split line = d.interpreter :: "-m" :: "pip" :: "install" :: ctx.args)) ∧
    ∀ (s : State) (fuel : Nat), s.desk.registry = registry → s.desk.interpreter ≠ "cd" →
      ∃ line word,
        (∀ back, runPydoc back ctx s =
          (do let _ ← back.run ("." ++ line); return Reply.nothing) s) ∧
        s.desk.registry.match? ("." ++ line) = some ⟨shellEscape, word, line⟩ ∧
        Words.split line = s.desk.interpreter :: "-m" :: "pydoc" :: ctx.args ∧
        let t := endState (runPydoc (reentry bodies (fuel + 1)) ctx s)
        t.stack = s.stack.note s.stack.top (.runs shellEscape line) s.desk.waiting ∧
          t.desk.handed = line :: s.desk.handed := by
  constructor
  · intro d
    have handed := handed_runPipInstall ctx d
    refine ⟨fun none_ => ?_, fun some_ => ⟨_, ?_, Words.split_joined _⟩⟩
    · rwa [if_pos (List.isEmpty_iff.mpr none_)] at handed
    · rwa [if_neg (by simpa using some_)] at handed
  · intro s fuel builtin path
    obtain ⟨trimmed, filled⟩ :=
      Words.trimmed_joined s.desk.interpreter ("-m" :: "pydoc" :: ctx.args)
    have elsewhere :
        (splitFirst (joinWords (s.desk.interpreter :: "-m" :: "pydoc" :: ctx.args))).1 ≠ "cd" :=
      fun first => path (first_joinWords first)
    have split_ := Words.split_joined (s.desk.interpreter :: "-m" :: "pydoc" :: ctx.args)
    have dispatched := fun back => runPydoc_dispatches back ctx s
    unfold joinWords at elsewhere dispatched
    generalize " ".intercalate (List.map Words.quote _) = line at *
    obtain ⟨word, found⟩ := match?_point trimmed filled
    have ends : endState (runPydoc (reentry bodies (fuel + 1)) ctx s) =
        endState (dispatchWith (bodies (reentry bodies fuel)) ("." ++ line) s) := by
      rw [dispatched, endState_discard]
      rfl
    refine ⟨line, word, dispatched, builtin ▸ found, split_, ?_⟩
    rw [ends]
    exact handed_point builtin trimmed filled elsewhere (reentry bodies fuel)

/-- Arguments without characters, with quotes, blanks and line ends and with marks of the system's
command interpreter. -/
theorem marked_arguments_handed :
    let ctx : Context := ⟨pydoc, "pydoc", { args := ["", "it's", " a\n", "\\$(b) \x22"] },
      (fresh []).stack.top.scope, (fresh []).stack⟩
    (∃ line, (endState (runPipInstall ctx (fresh []).desk)).handed = [line] ∧ Words.split line =
      ["/usr/bin/python3", "-m", "pip", "install", "", "it's", " a\n", "\\$(b) \x22"]) ∧
    ∃ line, (endState (runPydoc (reentry bodies 1) ctx (fresh []))).desk.handed = [line] ∧
      Words.split line =
        ["/usr/bin/python3", "-m", "pydoc", "", "it's", " a\n", "\\$(b) \x22"] := by
  intro ctx
  obtain ⟨packages, documentation⟩ := arguments_handed_whole ctx
  refine ⟨(packages _).2 (by decide), ?_⟩
  obtain ⟨line, _, -, -, split_, -, handed⟩ := documentation (fresh []) 0 rfl (by decide)
  exact ⟨line, handed, split_⟩

end NestShell.Commands

import NestShell.Proofs.Commands.LineStatus
import NestShell.Proofs.Program.ExitStatus
import NestShell.Proofs.Shell.Fresh

/-!
# The status of a single line

A program that is given one line has nothing to read. The line leaves a status at the desk, and it
may leave a text that is not complete; either makes the status of the program. An exception that
ends the program carries a status of its own. Sessions that the line starts end at once, so the
status at the desk is the line's.
-/

namespace NestShell.Code

/-- A module without a file is shown by its name. -/
theorem view_module {a vars : Nat} {name : String} {m : Machine}
    (held : m.object a = .module name none vars) :
    Run.view (.ref a) m = .ok ("<module '" ++ name ++ "'>") m := by
  have special : Run.special? (.ref a) "__repr__" m = .ok none m := by
    unfold Run.special?
    dsimp only
    rw [Run.bind_apply, Run.object_apply, held]
    rfl
  refine Run.catchingOnly_ok ?_
  change Run.shown (engineOf 999999) (.ref a) m = _
  unfold Run.shown
  rw [Run.bind_apply, special]
  change Run.shownObject (engineOf 999999) a m = _
  unfold Run.shownObject
  rw [Run.bind_apply, Run.object_apply, held]
  rfl

theorem viewClip_top {a vars : Nat} {m : Machine}
    (held : m.object a = .module topName none vars) :
    Run.viewClip (.ref a) clipLimit m = .ok "<module '__burrow__'>" m := by
  unfold Run.viewClip
  rw [Run.bind_apply, view_module held]
  rfl

/-- A scope at top level stands on a module. -/
theorem top_apply (m : Machine) : ∃ (scope : Scope) (a vars : Nat) (t : Machine),
    Scope.top [] m = .ok scope t ∧ scope.receiver = .ref a ∧
      t.object a = .module topName none vars := by
  let builtins : Object := .foreign "module" "<module 'builtins' (built-in)>"
  refine ⟨_, _, (m.heap.push builtins).size, _, rfl, rfl, ?_⟩
  unfold Machine.object
  dsimp only
  rw [Array.getElem?_push_size]
  rfl

end NestShell.Code

namespace NestShell.Program

open NestShell.Code NestShell.Text NestShell.Shell

/-- A shell that is given one line: it has nothing to read, and no exception has been reported. -/
structure Launched (s : State) : Prop where
  unfed : Unfed s.desk
  goesOn : s.desk.exhausted = false
  calm : s.desk.lastException = none

/-! ## Starting -/

theorem inShell_apply {α : Type} {scope : Scope} {d : Desk} {s : State} {p : ShellM α}
    (created : Shell.create scope { d with attached := true } = .ok s) :
    inShell scope p d = match p s with
      | .ok a t => .ok a t.desk
      | .error e t => .error e t.desk := by
  unfold inShell
  split
  · next stop failed => cases failed.symm.trans created
  · next t opened =>
    obtain rfl : t = s := Except.ok.inj (opened.symm.trans created)
    cases p t <;> rfl

/-- The program gives its line to a shell that has nothing to read. -/
theorem run_line {settings : Settings} {line : String} {d : Desk}
    (given : Command.given? settings.command = some line) (replay : d.replay = [])
    (history : d.history = none) (goesOn : d.exhausted = false) (calm : d.lastException = none) :
    ∃ s, Launched s ∧ run settings d = match runLine line s with
      | .ok n t => .ok n t.desk
      | .error e t => .error e t.desk := by
  let e : Desk := { settings.arrange d with source := noLines }
  obtain ⟨scope, a, vars, m, made, receiver, held⟩ := top_apply e.lent
  let f : Desk := { e with machine := m, attached := true }
  let label : String := "<module '__burrow__'>"
  let s : State := ⟨Stack.start scope label, { f with machine := f.lent }⟩
  have created : Shell.create scope f = .ok s := by
    have same : f.lent.object a = .module topName none vars := held
    have labelled : DeskM.viewClip scope.receiver f = .ok label { f with machine := f.lent } := by
      unfold DeskM.viewClip
      rw [ofRun_apply, receiver, viewClip_top same]
    unfold Shell.create
    rw [labelled]
  have opened : DeskM.ofRun (Scope.top []) e = .ok scope { e with machine := m } := by
    rw [ofRun_apply, made]
  have ran : run settings d = inShell scope (runLine line) { e with machine := m } := by
    unfold run
    rw [given]
    change (DeskM.ofRun (Scope.top []) >>= fun scope => inShell scope (runLine line)) e = _
    rw [bind_apply, opened]
  have opens := @inShell_apply _ scope { e with machine := m } s (runLine line) created
  refine ⟨s, ⟨⟨rfl, replay, history, rfl⟩, goesOn, calm⟩, ran.trans (opens.trans ?_)⟩
  cases runLine line s <;> rfl

/-! ## Ending the program -/

/-- What `exit-program` is told asks for the number. -/
inductive Asks : List String → Int → Prop where
  | nothing : Asks [] 0
  | number {text : String} {n : Int} (rest : List String) :
      int? text = some n → Asks (text :: rest) n

theorem bodies_exitProgram {back : Reentry} {ctx : Context} {n : Int}
    (body : ctx.command.body = .builtin .exitProgram) (asks : Asks ctx.args n) :
    Commands.bodies back ctx = ShellM.ofDesk (Commands.endProgram n) := by
  have ends : Commands.runExitProgram ctx = Commands.endProgram n := by
    unfold Commands.runExitProgram
    generalize ctx.args = args at asks
    cases asks with
    | nothing => rfl
    | number rest number =>
      dsimp only
      rw [number]
  unfold Commands.bodies
  rw [body]
  exact congrArg ShellM.ofDesk ends

/-- The exception that ends the program with a number. -/
def ending (n : Int) : Exception :=
  ⟨.type "SystemExit", [.int n], Names.ofList [("code", .int n)], none⟩

/-- The state after the exception was made. -/
def raisedIn (s : State) (n : Int) : State :=
  s.after { s.desk.lent with heap := s.desk.lent.heap.push (.error (ending n)) }

section Lines

variable {s t u : State} {line : String} {signal : Option Signal} {e : Stop} {x : Nat}

/-- The status after a line that was handled tells whether it failed or reported an exception. -/
theorem tells_of_handle (launched : Launched s) (done : handleLine line s = .ok signal t) :
    s.Tells line t := by
  obtain ⟨unfed, goesOn, calm⟩ := launched
  rcases s.begun.admits_or_refuses line with ⟨m, tokens, options, admits⟩ | ⟨o, text, refuses⟩
  · let ctx : Context := ⟨m.command, line, options, s.begun.stack.top.scope, s.begun.stack⟩
    have builtin : ctx.command ∈ Commands.registry.commands :=
      unfed.commands ▸ Registry.mem_of_match? admits.found
    have fed : Unfed (entered s.begun ctx m.remainder).desk :=
      ⟨unfed.inputs, unfed.replay, unfed.history, unfed.commands⟩
    have rests := (Commands.resting_perform builtin).within (entered s.begun ctx m.remainder) fed
    cases came : Commands.perform ctx (entered s.begun ctx m.remainder) with
    | ok reply u =>
      rw [came] at rests
      exact tells_of_reply calm ⟨m, tokens, options, admits, rfl, came⟩ rests.2 done
    | error first u =>
      obtain ⟨fails, status⟩ := tells_of_stop calm ⟨m, tokens, options, admits, rfl, came⟩ done
      exact .inr ⟨by rw [status]; decide, .inl fails⟩
  · exact tells_of_refuses calm refuses goesOn done

/-- A line that fails leaves a status other than zero. -/
theorem status_of_fails (launched : Launched s) (fails : s.FailsBy line)
    (done : handleLine line s = .ok signal t) : t.desk.status ≠ 0 := by
  obtain ⟨v, p, fails⟩ := fails
  change handle Commands.perform line s = .ok signal t at done
  cases fails with
  | unread refuses goesOn =>
    rw [handle_refused refuses, goesOn, if_neg Bool.false_ne_true] at done
    cases done
    exact Nat.one_ne_zero
  | unknown unmatched unwilling goesOn =>
    rw [handle_unknown unmatched unwilling goesOn] at done
    cases done
    exact Nat.one_ne_zero
  | body runs failed =>
    rw [(tells_of_stop launched.calm runs done).2]
    exact Nat.one_ne_zero
  | level runs signals deep goesOn refused =>
    rw [handle_replies runs, signals, goesOn, Bool.or_false, if_neg (by simpa using deep),
      obey_level (t := s.marked (cleared _)) refused] at done
    split at done <;> cases done
    exact Nat.one_ne_zero
  | @evaluation source u x m evaluates failed =>
    rw [handle_evaluates evaluates, evaluation_apply, failed] at done
    dsimp only at done
    cases told : evaluationText x (u.after m).desk with
    | error stop d =>
      rw [told] at done
      cases done
    | ok text d =>
      rw [told] at done
      cases done
      exact Nat.one_ne_zero

theorem status_iff (launched : Launched s) (done : handleLine line s = .ok signal t) :
    t.desk.status ≠ 0 ↔ s.FailsBy line ∨ t.desk.lastException ≠ none := by
  rcases tells_of_handle launched done with ⟨zero, none_⟩ | ⟨other, why⟩
  · constructor
    · exact fun nonzero => absurd zero nonzero
    · rintro (fails | reported)
      · exact status_of_fails launched fails done
      · exact absurd none_ reported
  · exact ⟨fun _ => why, fun _ => other⟩

/-! ## The status of the program -/

theorem runLine_blank (blank : isAllBlank line = true) : runLine line s = .ok 0 s := by
  unfold runLine
  rw [if_pos blank]
  rfl

variable (filled : isAllBlank line = false)
include filled

theorem runLine_done (done : handleLine line s = .ok signal t) :
    runLine line s =
      if t.desk.pending.isEmpty then .ok t.desk.status t
      else .ok 1 (t.printed "Parse error: incomplete input\n") := by
  unfold runLine ShellM.catching
  rw [if_neg (by simp [filled]), bind_apply, tryCatch_apply, bind_apply, done]
  change (ite _ _ _ : ShellM Int) t = _
  split <;> rfl

/-- An exception that ends the program gives its status. -/
theorem runLine_exit (raised : handleLine line s = .error (.raised x) t)
    (ends : t.desk.machine.isOf x "SystemExit" = true) :
    runLine line s = match exitStatus x t.desk.lent with
      | .ok n m => .ok n (t.after m)
      | .error f m => .error f.stop (t.after m) := by
  have handling : (do let _ ← handleLine line; return none : ShellM (Option Int)) s =
      .error (.raised x) t := by
    rw [bind_apply, raised]
  have same : (t.after t.desk.lent).desk.lent = t.desk.lent := rfl
  unfold runLine
  rw [if_neg (by simp [filled]), bind_apply, catching_raised handling, if_pos ends, bind_apply,
    ofDesk_ofRun, same]
  cases exitStatus x t.desk.lent <;> rfl

/-- No other stop is heeded. -/
theorem runLine_stops (stopped : handleLine line s = .error e t)
    (other : ∀ x, e = .raised x → t.desk.machine.isOf x "SystemExit" = false) :
    ∃ u, runLine line s = .error e u := by
  unfold runLine ShellM.catching
  rw [if_neg (by simp [filled]), bind_apply, tryCatch_apply, bind_apply, stopped]
  cases e with
  | raised x =>
    dsimp only
    rw [bind_apply, ofDesk_apply, isA_apply, other x rfl]
    exact ⟨_, rfl⟩
  | _ => exact ⟨_, rfl⟩

/-- A line that ends the program gives the number that it asks for. -/
theorem runLine_exitProgram {m : Registry.Match} {tokens : List String}
    {options : Options.Parsed} {n : Int} (admits : s.begun.Admits line m tokens options)
    (exits : m.command = Commands.exitProgram) (asks : Asks options.args n) :
    ∃ t, runLine line s = .ok n t := by
  let ctx : Context := ⟨m.command, line, options, s.begun.stack.top.scope, s.begun.stack⟩
  let start := entered s.begun ctx m.remainder
  let x := start.desk.lent.heap.size
  let u := raisedIn start n
  let v := cleared (u.after u.desk.lent)
  have ran : Commands.perform ctx start = .error (.raised x) u := by
    have body : ctx.command.body = .builtin .exitProgram := congrArg Command.body exits
    change Commands.bodies _ ctx start = _
    rw [bodies_exitProgram body asks]
    rfl
  have runs : s.begun.RunsTo Commands.perform line m.command (.error (.raised x) u) :=
    ⟨m, tokens, options, admits, rfl, ran⟩
  have classes (t : State) (same : t.desk.machine.heap = u.desk.machine.heap) (name : String) :
      t.desk.machine.isOf x name =
        ((lineage "SystemExit").map .type).any (Value.type name).same :=
    Machine.isOf_newest (e := ending n) same rfl name
  have other : u.desk.machine.isOf x "Exception" = false := by
    rw [classes u rfl]
    decide +kernel
  have ends : v.desk.machine.isOf x "SystemExit" = true := by
    rw [classes v rfl]
    decide +kernel
  have stopped : handleLine line s = .error (.raised x) v := by
    refine (handle_runs runs).trans ?_
    unfold concluded
    dsimp only
    rw [recover_raised other]
    rfl
  have held : v.desk.lent.object x = .error (ending n) := by
    change ((start.desk.lent.heap.push (.error (ending n)))[x]?).getD _ = _
    rw [Array.getElem?_push_size]
    rfl
  have given : (ending n).attrs.get? "code" = some (.int n) := rfl
  rw [runLine_exit filled stopped ends,
    exitStatus_carried (getAttr_code held rfl given) (.number n)]
  exact ⟨_, rfl⟩

end Lines

/-- A line that is handled gives zero unless it failed, reported an exception or left a text that is
not complete. Where it ends the program it gives the code that it carries if that is a number or
none at all, or a text that writes a number; otherwise reading the code raises an exception. What
else stops the line stops the program. -/
theorem single_line_status {s : State} (launched : Launched s) (line : String) :
    (isAllBlank line = true → runLine line s = .ok 0 s) ∧
    (isAllBlank line = false →
      (∀ signal t, handleLine line s = .ok signal t → ∃ n u, runLine line s = .ok n u ∧
        (n ≠ 0 ↔ t.desk.pending ≠ [] ∨ s.FailsBy line ∨ t.desk.lastException ≠ none)) ∧
      (∀ x t, handleLine line s = .error (.raised x) t →
        t.desk.machine.isOf x "SystemExit" = true →
        ∀ v m, engine.getAttr (.ref x) "code" t.desk.lent = .ok v m →
        (∀ n, Comes v (.ok n) → runLine line s = .ok n (t.after m)) ∧
        ∀ name, Comes v (.error name) → ∃ y u, runLine line s = .error (.raised y) u ∧
          u.desk.machine.isOf y name = true) ∧
      (∀ m tokens options n, s.begun.Admits line m tokens options →
        m.command = Commands.exitProgram → Asks options.args n →
        ∃ t, runLine line s = .ok n t) ∧
      ∀ e t, handleLine line s = .error e t →
        (∀ x, e = .raised x → t.desk.machine.isOf x "SystemExit" = false) →
        Escapes Commands.perform s line e ∧ ∃ u, runLine line s = .error e u) := by
  refine ⟨runLine_blank, fun filled => ⟨?_, ?_, ?_, ?_⟩⟩
  · intro signal t done
    have tells := status_iff launched done
    rw [runLine_done filled done]
    by_cases whole : t.desk.pending = []
    · refine ⟨t.desk.status, t, by rw [whole]; rfl, ?_⟩
      rw [← tells]
      simp [whole]
    · refine ⟨1, _, if_neg (by simpa using whole), ?_⟩
      simp [whole]
  · intro x t raised ends v m read
    have exits := runLine_exit filled raised ends
    refine ⟨fun n comes => ?_, fun name comes => ?_⟩
    · rw [exits, exitStatus_carried read comes]
    · obtain ⟨y, w, fault, is⟩ := exitStatus_uncarried read comes
      refine ⟨y, t.after w, ?_, is⟩
      rw [exits, fault]
      rfl
  · exact fun m tokens options n admits exits asks =>
      runLine_exitProgram filled admits exits asks
  · exact fun e t stopped other => ⟨escapes_of_handle stopped, runLine_stops filled stopped other⟩

/-- Ending the program with a number gives it. A line with an open quote does not give zero. -/
theorem ending_and_failing_line_status :
    (∃ t, runLine "exit-program 3" (fresh []) = .ok 3 t) ∧
      ∃ n u, runLine "alias 'x" (fresh []) = .ok n u ∧ n ≠ 0 := by
  have launched : Launched (fresh []) := ⟨⟨rfl, rfl, rfl, fresh_commands []⟩, rfl, rfl⟩
  constructor
  · obtain ⟨-, status⟩ := single_line_status launched "exit-program 3"
    obtain ⟨-, -, exits, -⟩ := status (by decide)
    have splits : Splits ⟨Commands.exitProgram, "exit-program", "3"⟩ ["3"] :=
      .words (by decide +kernel)
    exact exits _ _ _ 3 ⟨rfl, splits, rfl, rfl⟩ rfl (.number [] rfl)
  · obtain ⟨-, status⟩ := single_line_status launched "alias 'x"
    obtain ⟨handled, -⟩ := status (by decide)
    have refuses : (fresh []).begun.Refuses "alias 'x" _ "" :=
      .unsplit (m := ⟨Commands.aliasing, "alias", "'x"⟩) rfl rfl
    obtain ⟨n, u, ran, tells⟩ := handled none _ (handle_refused refuses)
    exact ⟨n, u, ran, tells.mpr (.inr (.inl ⟨_, _, .unread refuses rfl⟩))⟩

/-- Whether the program stopped at an exception, and not because it was interrupted. -/
def breaksOff : EStateM.Result Stop State Int → Bool
  | .error (.raised x) t => !t.desk.machine.isOf x "KeyboardInterrupt"
  | _ => false

/-- Unless it is interrupted, the program gives a status for its line. -/
def Answered : Prop := ∀ (s : State) (line : String), Launched s → breaksOff (runLine line s) = false

/-- For a code that is a text and writes no number it does not. -/
theorem text_code_not_answered : ¬ Answered := by
  intro answered
  let s := freshOn {} [("SystemExit", .type "SystemExit")] []
  have launched : Launched s := ⟨⟨rfl, rfl, rfl, freshOn_commands ..⟩, rfl, rfl⟩
  have breaks : breaksOff (runLine "raise SystemExit('x')" s) = true := by decide +kernel
  cases breaks.symm.trans (answered s _ launched)

end NestShell.Program

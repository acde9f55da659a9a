import NestShell.Proofs.Shell.Line
import NestShell.Proofs.Shell.Loop

/-!
# How reading ends

A loop takes its input for ended where reading raises the exception that says so. The source raises
it only when it has no line left; before the source is asked, making the prompt may raise it too.
-/

namespace NestShell.Shell

variable {α : Type} {s t : State}

/-- What a handler for exceptions of one class gives, it or the computation has given. -/
theorem catching_ok {name : String} {p : ShellM α} {h : Nat → ShellM α} {a : α}
    (done : ShellM.catching name p h s = .ok a t) :
    p s = .ok a t ∨ ∃ e u d, p s = .error (.raised e) u ∧ DeskM.isA e name u.desk = .ok true d ∧
      h e { u with desk := d } = .ok a t := by
  unfold ShellM.catching at done
  rw [tryCatch_apply] at done
  cases tried : p s with
  | ok b u =>
    rw [tried] at done
    exact .inl done
  | error stop u =>
    rw [tried] at done
    cases stop with
    | raised e =>
      dsimp only at done
      rw [bind_apply, ofDesk_apply] at done
      cases asked : DeskM.isA e name u.desk with
      | error stop d =>
        rw [asked] at done
        cases done
      | ok is d =>
        rw [asked] at done
        cases is with
        | true => exact .inr ⟨e, u, d, rfl, asked, done⟩
        | false => cases done
    | _ => cases done

theorem object_new (m : Code.Machine) (o : Code.Object) :
    Code.Run.object m.heap.size { m with heap := m.heap.push o } =
      .ok o { m with heap := m.heap.push o } := by
  change EStateM.Result.ok ((m.heap.push o)[m.heap.size]?.getD _) _ = _
  rw [Array.getElem?_push_size]
  rfl

/-- What a program has made is there for the next one. -/
theorem lent_heap (d : Desk) (heap : Array Code.Object) :
    Desk.lent { d with machine := { d.lent with heap := heap } } = { d.lent with heap := heap } :=
  rfl

/-- The class of an exception of a built-in class, right after it was raised. -/
theorem isA_raised {className name : String} {args : List Code.Value} {attrs : Code.Names}
    {d u : Desk} {e : Nat}
    (raised : (DeskM.ofRun (Code.Run.throwValue (.type className) args attrs) : DeskM α) d =
      .error (.raised e) u) :
    DeskM.isA e name u = .ok (((Code.lineage className).map Code.Value.type).any
      (Code.Value.same (.type name))) u := by
  cases raised
  simp only [DeskM.isA, DeskM.ofRun, lent_heap, Code.Run.subclassOf, Code.Run.exceptionClass,
    Code.Run.exceptionAt, Code.Run.order, bind, EStateM.bind, object_new, pure, EStateM.pure]

/-- The exception of an interrupted line does not tell the end of input. -/
theorem interrupt_is_no_end {d : Desk} {e : Nat} {u v : Desk} {is : Bool}
    (raised : (DeskM.raiseBare "KeyboardInterrupt" : DeskM α) d = .error (.raised e) u)
    (asked : DeskM.isA e "EOFError" u = .ok is v) : is = false := by
  have other : ((Code.lineage "KeyboardInterrupt").map Code.Value.type).any
      (Code.Value.same (.type "EOFError")) = false := by decide +kernel
  rw [isA_raised raised, other] at asked
  cases asked
  rfl

theorem showPrompt_apply (prompt : String) (d : Desk) :
    DeskM.showPrompt prompt d = .ok .unit { d with machine := { d.machine with
      output := d.machine.output ++ if d.source.showsPrompts then prompt else "" } } := by
  change (if d.source.showsPrompts then DeskM.write prompt else pure ()) d = _
  split
  · rfl
  · rw [String.append_empty]
    rfl

/-- The source was the last to be asked for a line and had none, and nothing but the prompt was
printed since. -/
structure AskedInVain (d : Desk) : Prop where
  inputs : d.source.inputs = []
  replay : d.replay = []
  asked : ∃ x earlier before, d.source.exchanges = x :: earlier ∧ x.answer = none ∧
    before.length = x.printed ∧
    d.machine.output = before ++ if d.source.showsPrompts then x.prompt else ""

/-- The desk once a request was logged and its prompt shown. -/
def logged (depth : Nat) (prompt : String) (answer : Option Input) (rest : List Input)
    (d : Desk) : Desk :=
  let x : Exchange :=
    ⟨d.machine.output.length, depth, d.status, d.pending.length, prompt, answer⟩
  { d with
    source := { d.source with inputs := rest, exchanges := x :: d.source.exchanges }
    machine := { d.machine with
      output := d.machine.output ++ if d.source.showsPrompts then prompt else "" } }

theorem logged_apply (depth : Nat) (prompt : String) (answer : Option Input) (rest : List Input)
    (p : DeskM α) (d : Desk) :
    (do DeskM.logExchange depth prompt answer rest; DeskM.showPrompt prompt; p) d =
      p (logged depth prompt answer rest d) := by
  rw [bind_apply]
  change (DeskM.showPrompt prompt >>= fun _ => p) _ = _
  rw [bind_apply, showPrompt_apply]
  rfl

/-- A source that tells the end of input has no line left. -/
theorem request_ended {depth : Nat} {prompt : String} {d u v : Desk} {e : Nat}
    (raised : DeskM.request depth prompt d = .error (.raised e) u)
    (asked : DeskM.isA e "EOFError" u = .ok true v) (none : d.replay = []) : AskedInVain v := by
  unfold DeskM.request at raised
  rw [bind_apply, get_apply] at raised
  dsimp only at raised
  cases lines : d.source.inputs with
  | cons input rest =>
    rw [lines] at raised
    cases input with
    | line line =>
      dsimp only at raised
      rw [logged_apply] at raised
      cases raised
    | interrupt =>
      dsimp only at raised
      rw [logged_apply] at raised
      cases interrupt_is_no_end raised asked
  | nil =>
    rw [lines] at raised
    cases ending : d.source.ending with
    | awaiting =>
      rw [ending] at raised
      dsimp only at raised
      rw [bind_apply, showPrompt_apply] at raised
      cases raised
    | ended message =>
      rw [ending] at raised
      dsimp only at raised
      rw [logged_apply] at raised
      let w : Desk := logged depth prompt Option.none [] d
      obtain ⟨rfl, source, replay, output⟩ : v = u ∧ u.source = w.source ∧
          u.replay = w.replay ∧ u.machine.output = w.machine.output := by
        cases message <;>
        · rw [isA_raised raised] at asked
          cases raised
          exact ⟨(EStateM.Result.ok.inj asked).2.symm, rfl, rfl, rfl⟩
      let x : Exchange :=
        ⟨d.machine.output.length, depth, d.status, d.pending.length, prompt, Option.none⟩
      refine ⟨?_, ?_, x, d.source.exchanges, d.machine.output, ?_, rfl, rfl, ?_⟩
      · rw [source]
        rfl
      · rw [replay]
        exact none
      · rw [source]
        rfl
      · rw [source, output]
        rfl

/-- The state in which a loop has its prompt. -/
def prompted (prompt : String) (s : State) : State :=
  { s with stack := s.stack.note s.stack.top (.prompts prompt) s.desk.waiting }

/-- The first of the lines that are to be replayed is shown. -/
theorem nextLine_replay {line : String} {rest : List String} (prompt : String)
    (replay : s.desk.replay = line :: rest) : ∃ m, nextLine prompt s =
      .ok line { prompted prompt s with desk := { s.desk with replay := rest, machine := m } } := by
  unfold nextLine
  rw [bind_apply, get_apply]
  dsimp only
  rw [bind_apply, note_apply, replay]
  exact ⟨_, rfl⟩

/-- Where none is to be replayed the source is asked. -/
theorem nextLine_source (prompt : String) (replay : s.desk.replay = []) :
    nextLine prompt s =
      ShellM.ofDesk (DeskM.request s.stack.depth prompt) (prompted prompt s) := by
  unfold nextLine
  rw [bind_apply, get_apply]
  dsimp only
  rw [bind_apply, note_apply, replay]
  rfl

theorem nextLine_ended {prompt : String} {d : Desk} {e : Nat}
    (raised : nextLine prompt s = .error (.raised e) t)
    (asked : DeskM.isA e "EOFError" t.desk = .ok true d) : AskedInVain d := by
  cases replay : s.desk.replay with
  | cons line rest =>
    obtain ⟨m, read⟩ := nextLine_replay prompt replay
    rw [read] at raised
    cases raised
  | nil =>
    rw [nextLine_source prompt replay, ofDesk_apply] at raised
    cases requested : DeskM.request s.stack.depth prompt (prompted prompt s).desk with
    | ok line d =>
      rw [requested] at raised
      cases raised
    | error stop d =>
      rw [requested] at raised
      cases raised
      exact request_ended requested asked replay

instance : DeskClosed (fun s t : State => t.stack = s.stack) where
  refl _ := rfl
  trans _ _ _ first second := second.trans first
  desk _ := rfl

/-- A loop that finds its input ended has asked a source without lines, or it has not come to its
prompt. -/
theorem readNext_ended (ended : readNext s = .ok .ended t) :
    AskedInVain t.desk ∨ t.stack = s.stack := by
  unfold readNext at ended
  obtain ended | ⟨e, u, d, -, -, interrupted⟩ := catching_ok ended
  · obtain read | ⟨e, u, d, raised, asked, ended⟩ := catching_ok ended
    · obtain ⟨prompt, u, -, read⟩ := bind_ok read
      obtain ⟨line, v, -, read⟩ := bind_ok read
      cases read
    · cases ended
      obtain failed | ⟨prompt, v, made, raised⟩ := bind_error raised
      · have same : Stays (fun s t : State => t.stack = s.stack) promptText := inferInstance
        exact .inr (show u.stack = s.stack from same.of_error failed)
      · obtain raised | ⟨line, w, -, raised⟩ := bind_error raised
        · exact .inl (nextLine_ended raised asked)
        · cases raised
  · cases interrupted

end NestShell.Shell

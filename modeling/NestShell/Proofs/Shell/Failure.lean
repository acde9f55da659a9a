import NestShell.Proofs.Shell.Admission

/-!
# How failures are told

An exception of the class `Exception` that stops a command's body is told by the command, and one
that stops an evaluated text is told by the text. All other stops pass. Telling makes the text of
the exception, for which code of a program may run; where that code stops, nothing is told.
-/

namespace NestShell.Code

/-! ## Classes of exceptions -/

namespace Machine

def object (m : Machine) (a : Nat) : Object := m.heap[a]?.getD (.list #[])

/-- The class of an exception. -/
def exceptionClass (m : Machine) (x : Nat) : Value :=
  match m.object x with
  | .error e => e.cls
  | _ => .type "Exception"

/-- The classes that a class is one of, itself first. -/
def order (m : Machine) : Value → List Value
  | .type n => (lineage n).map .type
  | .ref a => match m.object a with
    | .cls k => .ref a :: k.order
    | _ => []
  | _ => []

/-- Whether an exception is of a built-in class. -/
def isOf (m : Machine) (x : Nat) (className : String) : Bool :=
  (m.order (m.exceptionClass x)).any (Value.type className).same

/-- The exception that was made last, of a built-in class. -/
theorem isOf_newest {m : Machine} {heap : Array Object} {e : Exception} {n : String}
    (newest : m.heap = heap.push (.error e)) (builtin : e.cls = .type n) (className : String) :
    m.isOf heap.size className = ((lineage n).map .type).any (Value.type className).same := by
  unfold isOf exceptionClass object
  rw [newest, Array.getElem?_push_size]
  dsimp only [Option.getD_some]
  rw [builtin]
  rfl

end Machine

namespace Run

variable {α β : Type} {m t : Machine}

theorem bind_apply (p : Run α) (f : α → Run β) (m : Machine) :
    (p >>= f) m = match p m with
      | .ok a t => f a t
      | .error e t => .error e t := by
  change EStateM.bind p f m = _
  unfold EStateM.bind
  cases p m <;> rfl

theorem object_apply (a : Nat) (m : Machine) : object a m = .ok (m.object a) m := rfl

theorem exceptionClass_apply (x : Nat) (m : Machine) :
    exceptionClass x m = .ok (m.exceptionClass x) m := by
  unfold exceptionClass exceptionAt Machine.exceptionClass
  rw [bind_apply, bind_apply, object_apply]
  dsimp only
  cases m.object x <;> rfl

theorem order_apply (c : Value) (m : Machine) : order c m = .ok (m.order c) m := by
  cases c with
  | ref a =>
    unfold order Machine.order
    dsimp only
    rw [bind_apply, object_apply]
    dsimp only
    cases m.object a <;> rfl
  | _ => rfl

/-- A text that writes a number is made that number. -/
theorem makeInt_text {s : String} {i : Int} (read : Text.readInt s = .ok i) (m : Machine) :
    makeInt engine [.str s] [] m = .ok (.int i) m := by
  change intOfText 10 (Text.quoted s) s m = _
  unfold intOfText
  rw [read]
  rfl

/-- For another text an exception is made. -/
theorem makeInt_unread {s : String} {f : Text.NumeralFault} (read : Text.readInt s = .error f)
    (m : Machine) : ∃ e : Exception, e.cls = .type "ValueError" ∧
      makeInt engine [.str s] [] m =
        .error (.raised m.heap.size) { m with heap := m.heap.push (.error e) } := by
  change ∃ e : Exception, _ ∧ intOfText 10 (Text.quoted s) s m = _
  unfold intOfText
  rw [read]
  cases f <;> exact ⟨_, rfl, rfl⟩

/-- Whether an exception is of a class is only looked up. -/
theorem subclassOf_exceptionClass (x : Nat) (className : String) (m : Machine) :
    (do subclassOf (← exceptionClass x) (.type className) : Run Bool) m =
      .ok (m.isOf x className) m := by
  unfold subclassOf
  rw [bind_apply, exceptionClass_apply]
  dsimp only
  rw [bind_apply, order_apply]
  rfl

/-- The machine at which an exception that a run of `p` raised from `m` is caught. -/
def caughtAt (m t : Machine) : Machine := { t with depth := m.depth, showing := m.showing }

/-- A handler for one class is given the exceptions of that class. -/
theorem catchingOnly_raised {className : String} {p : Run α} {handler : Nat → Run α} {x : Nat}
    (raised : p m = .error (.raised x) t) : catchingOnly className p handler m =
      if (caughtAt m t).isOf x className then handler x (caughtAt m t)
      else .error (.raised x) (caughtAt m t) := by
  unfold catchingOnly catching
  rw [raised]
  have asked := subclassOf_exceptionClass x className (caughtAt m t)
  change (exceptionClass x >>= fun c => subclassOf c (.type className) >>= fun is =>
    if is then handler x else throw (.raised x)) (caughtAt m t) = _
  rw [← bind_assoc, bind_apply, asked]
  dsimp only
  split <;> rfl

theorem catchingOnly_ok {className : String} {p : Run α} {handler : Nat → Run α} {a : α}
    (ran : p m = .ok a t) : catchingOnly className p handler m = .ok a t := by
  unfold catchingOnly catching
  rw [ran]

/-- Where a handler for one class gives a value for each exception, the exceptions that pass it are
of other classes. -/
theorem catchingOnly_error {className : String} {p : Run α} {handler : Nat → α} {f : Fault}
    (stopped : catchingOnly className p (fun x => return handler x) m = .error f t) :
    f = .outOfFuel ∨ ∃ x, f = .raised x ∧ t.isOf x className = false := by
  cases ran : p m with
  | ok a u =>
    rw [catchingOnly_ok ran] at stopped
    cases stopped
  | error e u =>
    cases e with
    | outOfFuel =>
      unfold catchingOnly catching at stopped
      rw [ran] at stopped
      cases stopped
      exact .inl rfl
    | raised x =>
      rw [catchingOnly_raised ran] at stopped
      split at stopped
      · cases stopped
      · next other =>
        cases stopped
        exact .inr ⟨x, rfl, Bool.eq_false_iff.mpr other⟩

end Run

/-- An evaluation stops for want of fuel, at a text with a NUL character, or at an exception of
another class than `Exception`. -/
theorem Scope.evaluate_error {s : Scope} {source : String} {m t : Machine} {f : Fault}
    (stopped : s.evaluate source m = .error f t) :
    f = .outOfFuel ∨ ∃ x, f = .raised x ∧
      (Text.containsChar '\x00' (Text.trimOf ['\n'] source) = true ∧
          t.isOf x "ValueError" = true ∨
        t.isOf x "Exception" = false) := by
  unfold Scope.evaluate at stopped
  split at stopped
  · cases stopped
  · split at stopped
    · next nul =>
      cases stopped
      refine .inr ⟨_, rfl, .inl ⟨nul, ?_⟩⟩
      rw [Machine.isOf_newest rfl rfl]
      decide +kernel
    · rcases Run.catchingOnly_error stopped with fuel | ⟨x, raised, other⟩
      · exact .inl fuel
      · exact .inr ⟨x, raised, .inr other⟩

/-- The stop of a shell whose program stopped. -/
def Fault.stop : Fault → Shell.Stop
  | .raised x => .raised x
  | .outOfFuel => .outOfFuel

end NestShell.Code

namespace NestShell.Shell

open NestShell.Code

/-! ## Failures -/

/-- A stop that no handler of failures takes. -/
inductive Stop.Passes (m : Machine) : Stop → Prop where
  | awaiting : Passes m .awaiting
  | outOfFuel : Passes m .outOfFuel
  | raised {x : Nat} : m.isOf x "Exception" = false → Passes m (.raised x)

/-- A stop that is a failure, with its exception. -/
inductive Stop.Fails (m : Machine) (x : Nat) : Stop → Prop where
  | evaluation : Fails m x (.evaluation x)
  | raised : m.isOf x "Exception" = true → Fails m x (.raised x)

theorem Stop.passes_or_fails (m : Machine) (e : Stop) : e.Passes m ∨ ∃ x, e.Fails m x := by
  cases e with
  | raised x =>
    by_cases is : m.isOf x "Exception" = true
    · exact .inr ⟨x, .raised is⟩
    · exact .inl (.raised (Bool.eq_false_iff.mpr is))
  | evaluation x => exact .inr ⟨x, .evaluation⟩
  | awaiting => exact .inl .awaiting
  | outOfFuel => exact .inl .outOfFuel

/-- The desk with an exception as the last one. -/
def Desk.failed (d : Desk) (x : Nat) : Desk := { d with lastException := some x }

/-- The text in which a command tells the failure of its body. -/
def failureText (c : Command) : Stop → DeskM String
  | .evaluation x => DeskM.ofRun (Run.report x)
  | .raised x => do
    return "error: " ++ ("Command '" ++ c.name ++ "' failed: " ++ (← DeskM.errorText x))
  | stop => throw stop

theorem isA_apply (x : Nat) (className : String) (d : Desk) :
    DeskM.isA x className d =
      .ok (d.machine.isOf x className) { d with machine := d.lent } := by
  unfold DeskM.isA DeskM.ofRun
  rw [Run.subclassOf_exceptionClass]
  rfl

theorem report_apply (x : Nat) (d : Desk) :
    DeskM.report x d = match DeskM.ofRun (Run.report x) (d.failed x) with
      | .ok text e => .ok .unit (e.printed (wholeLines text))
      | .error stop e => .error stop e := by
  unfold DeskM.report
  rw [bind_apply]
  change (DeskM.ofRun (Run.report x) >>= DeskM.puts) (d.failed x) = _
  rw [bind_apply]
  cases DeskM.ofRun (Run.report x) (d.failed x) <;> rfl

/-! ## Bodies of commands -/

section Bodies

variable {c : Command} {e : Stop} {x : Nat} {t : State}

theorem telling_apply (c : Command) (x : Nat) (d : Desk) :
    (do
      modify fun d : Desk => { d with lastException := some x }
      DeskM.putsError ("Command '" ++ c.name ++ "' failed: " ++ (← DeskM.errorText x))
      return Signal.skip : DeskM Signal) { d with machine := d.lent } =
    match failureText c (.raised x) (d.failed x) with
      | .ok text d => .ok .skip (d.printed (wholeLines text))
      | .error e d => .error e d := by
  have same : DeskM.errorText x { d.failed x with machine := d.lent } =
      DeskM.errorText x (d.failed x) := rfl
  change (DeskM.errorText x >>= fun text => (do
    DeskM.putsError ("Command '" ++ c.name ++ "' failed: " ++ text)
    return Signal.skip)) { d.failed x with machine := d.lent } = _
  unfold failureText
  dsimp only
  rw [bind_apply, bind_apply, same]
  cases DeskM.errorText x (d.failed x) <;> rfl

/-- A failure is told by the command, unless making the text stops. -/
theorem recover_of_fails (fails : e.Fails t.desk.machine x) :
    recover c e t = match failureText c e (t.desk.failed x) with
      | .ok text d => .ok .skip { t with desk := d.printed (wholeLines text) }
      | .error e d => .error e { t with desk := d } := by
  cases fails with
  | evaluation =>
    change (do ShellM.ofDesk (DeskM.report x); return .skip : ShellM Signal) t = _
    rw [bind_apply, ofDesk_apply, report_apply]
    unfold failureText
    dsimp only
    cases DeskM.ofRun (Run.report x) (t.desk.failed x) <;> rfl
  | raised is =>
    change ShellM.ofDesk (DeskM.isA x "Exception" >>= _) t = _
    rw [ofDesk_apply, bind_apply, isA_apply, is]
    dsimp only
    rw [if_pos rfl, telling_apply]
    cases failureText c (.raised x) (t.desk.failed x) <;> rfl

/-- An exception of another class goes on. -/
theorem recover_raised {x : Nat} (other : t.desk.machine.isOf x "Exception" = false) :
    recover c (.raised x) t =
      .error (.raised x) { t with desk := { t.desk with machine := t.desk.lent } } := by
  change ShellM.ofDesk (DeskM.isA x "Exception" >>= _) t = _
  rw [ofDesk_apply, bind_apply, isA_apply, other]
  rfl

/-- All other stops go on as they are. -/
theorem recover_of_passes (passes : e.Passes t.desk.machine) :
    ∃ u, recover c e t = .error e u ∧ u.stack = t.stack := by
  cases passes with
  | awaiting => exact ⟨t, rfl, rfl⟩
  | outOfFuel => exact ⟨t, rfl, rfl⟩
  | raised other => exact ⟨_, recover_raised other, rfl⟩

end Bodies

/-! ## Evaluated texts -/

/-- The text in which the failure of an evaluated text is told, after the title of its own. -/
def evaluationText (x : Nat) : DeskM String := do
  let _ ← DeskM.ofRun (Run.errorTitle x)
  modify fun d => d.failed x
  DeskM.ofRun (Run.report x)

/-- The state with a machine after a program. -/
def State.after (s : State) (m : Machine) : State :=
  { s with desk := { s.desk with machine := m } }

theorem ofRun_apply {α : Type} (p : Run α) (d : Desk) :
    DeskM.ofRun p d = match p d.lent with
      | .ok a m => .ok a { d with machine := m }
      | .error f m => .error f.stop { d with machine := m } := by
  unfold DeskM.ofRun
  rcases p d.lent with _ | ⟨_ | _⟩ <;> rfl

theorem ofDesk_ofRun {α : Type} (p : Run α) (s : State) :
    ShellM.ofDesk (DeskM.ofRun p) s = match p s.desk.lent with
      | .ok a m => .ok a (s.after m)
      | .error f m => .error f.stop (s.after m) := by
  rw [ofDesk_apply, ofRun_apply]
  cases p s.desk.lent with
  | ok a m => rfl
  | error f m => cases f <;> rfl

/-- A handler for one class is given the exceptions of that class. -/
theorem catching_raised {α : Type} {name : String} {p : ShellM α} {h : Nat → ShellM α} {x : Nat}
    {s t : State} (raised : p s = .error (.raised x) t) :
    ShellM.catching name p h s =
      if t.desk.machine.isOf x name then h x (t.after t.desk.lent)
      else .error (.raised x) (t.after t.desk.lent) := by
  unfold ShellM.catching
  rw [tryCatch_apply, raised]
  dsimp only
  rw [bind_apply, ofDesk_apply, isA_apply]
  cases t.desk.machine.isOf x name <;> rfl

theorem evaluationText_apply (x : Nat) (d : Desk) :
    evaluationText x d = match DeskM.ofRun (Run.errorTitle x) d with
      | .ok _ e => DeskM.ofRun (Run.report x) (e.failed x)
      | .error stop e => .error stop e := by
  unfold evaluationText
  rw [bind_apply]
  cases DeskM.ofRun (Run.errorTitle x) d <;> rfl

theorem evaluate_apply (scope : Scope) (source : String) (d : Desk) :
    DeskM.evaluate scope source d = match scope.evaluate source d.lent with
      | .error f m => .error f.stop { d with machine := m }
      | .ok (.value v) m => .ok v { d with machine := m }
      | .ok (.failed x) m => match DeskM.ofRun (Run.errorTitle x) { d with machine := m } with
        | .ok _ e => .error (.evaluation x) e
        | .error stop e => .error stop e := by
  unfold DeskM.evaluate
  rw [bind_apply, ofRun_apply]
  cases scope.evaluate source d.lent with
  | error f m => rfl
  | ok result m =>
    cases result with
    | value v => rfl
    | failed x =>
      dsimp only
      rw [bind_apply]
      cases DeskM.ofRun (Run.errorTitle x) { d with machine := m } <;> rfl

/-- What evaluating a text comes to: it stops, it fails and this is told unless making the text
stops, or its value is shown. -/
theorem evaluation_apply (source : String) (u : State) :
    evaluation source u = match u.stack.top.scope.evaluate source u.desk.lent with
      | .error f m => .error f.stop (u.after m)
      | .ok (.failed x) m => match evaluationText x (u.after m).desk with
        | .ok text d =>
          .ok .unit { u with desk := { d.printed (wholeLines text) with status := 1 } }
        | .error e d => .error e { u with desk := d }
      | .ok (.value .none) m => .ok .unit (u.after m)
      | .ok (.value v) m => showValue v (u.after m) := by
  unfold evaluation showEvaluated
  rw [bind_apply, tryCatch_apply, bind_apply, ofDesk_apply, evaluate_apply]
  cases u.stack.top.scope.evaluate source u.desk.lent with
  | error f m => cases f <;> rfl
  | ok result m =>
    cases result with
    | value v => cases v <;> rfl
    | failed x =>
      dsimp only
      rw [evaluationText_apply]
      change _ = match (match DeskM.ofRun (Run.errorTitle x) { u.desk with machine := m } with
        | .ok _ e => DeskM.ofRun (Run.report x) (e.failed x)
        | .error stop e => .error stop e : EStateM.Result Stop Desk String) with
        | .ok text d => EStateM.Result.ok PUnit.unit
          { u with desk := { d.printed (wholeLines text) with status := 1 } }
        | .error e d => EStateM.Result.error e { u with desk := d }
      cases title : DeskM.ofRun (Run.errorTitle x) { u.desk with machine := m } with
      | error stop e =>
        rw [ofRun_apply] at title
        cases ran : Run.errorTitle x ({ u.desk with machine := m } : Desk).lent with
        | ok a m =>
          rw [ran] at title
          cases title
        | error f m =>
          rw [ran] at title
          cases title
          cases f <;> rfl
      | ok text e =>
        dsimp only
        rw [bind_apply, ofDesk_apply, report_apply]
        dsimp only
        cases DeskM.ofRun (Run.report x) (e.failed x) <;> rfl

end NestShell.Shell

import NestShell.Proofs.Shell.Computation
import NestShell.Shell.Loop

/-!
# Equations of the loop

What a line, a turn of a loop and the start of a session come to, for one state. Each step of the
shell has its equation here, and what is said of it elsewhere goes through that equation.
-/

namespace NestShell.Shell

/-! ## Lines at the desk -/

section Lines

variable (d : Desk) (line : String)

/-- Joining lines only changes which of them wait. -/
theorem joinLine_eq : ∃ texts, (joinLine d line).1 = { d with continuation := texts } := by
  unfold joinLine
  dsimp only
  split
  · exact ⟨_, rfl⟩
  · split <;> exact ⟨_, rfl⟩

theorem joinLine_registry : (joinLine d line).1.registry = d.registry := by
  obtain ⟨texts, same⟩ := joinLine_eq d line
  rw [same]

/-- The history may be kept in a file. -/
theorem recordLine_eq :
    ∃ history files, recordLine line d = { d with history := history, files := files } := by
  unfold recordLine
  split <;> exact ⟨_, _, rfl⟩

theorem recordLine_registry : (recordLine line d).registry = d.registry := by
  obtain ⟨history, files, same⟩ := recordLine_eq d line
  rw [same]

theorem recordLine_exhausted : (recordLine line d).exhausted = d.exhausted := by
  obtain ⟨history, files, same⟩ := recordLine_eq d line
  rw [same]

theorem recordLine_source : (recordLine line d).source = d.source := by
  obtain ⟨history, files, same⟩ := recordLine_eq d line
  rw [same]

theorem recordLine_history :
    (recordLine line d).history = d.history.map fun h => (h.record d.files line).1 := by
  unfold recordLine
  cases known : d.history with
  | none => exact known
  | some h => rfl

theorem recordLine_replay : (recordLine line d).replay = d.replay := by
  obtain ⟨history, files, same⟩ := recordLine_eq d line
  rw [same]

end Lines

/-! ## Loops and turns -/

variable (perform : Context → ShellM Reply) (f : Session) (s : State)

/-- A loop that has no turn left looks whether it is over. -/
theorem sessionLoop_zero :
    sessionLoop perform f 0 s =
      if !s.stack.contains f || s.desk.exhausted then .ok s.desk.unwound s
      else .error .outOfFuel { s with stack := s.stack.note f .asks s.desk.waiting } := by
  rw [sessionLoop, bind_apply]
  change (ite _ _ _ : ShellM Code.Value) s = _
  split <;> rfl

/-- A loop looks whether it is over, takes a turn, and goes on if the turn says so. -/
theorem sessionLoop_succ (fuel : Nat) :
    sessionLoop perform f (fuel + 1) s =
      if !s.stack.contains f || s.desk.exhausted then .ok s.desk.unwound s
      else match turn perform f s with
        | .ok true t => sessionLoop perform f fuel t
        | .ok false t => .ok t.desk.unwound t
        | .error e t => .error e t := by
  rw [sessionLoop, bind_apply]
  change (ite _ _ _ : ShellM Code.Value) s = _
  split
  · rfl
  · rw [bind_apply]
    cases turn perform f s with
    | error e t => rfl
    | ok goesOn t => cases goesOn <;> rfl

variable {perform f s} in
/-- A loop gives the value that is carried when it is over. -/
theorem sessionLoop_value {fuel : Nat} {v : Code.Value} {t : State}
    (done : sessionLoop perform f fuel s = .ok v t) : v = t.desk.unwound := by
  induction fuel generalizing s with
  | zero =>
    rw [sessionLoop_zero] at done
    split at done <;> cases done
    rfl
  | succ fuel ih =>
    rw [sessionLoop_succ] at done
    split at done
    · cases done
      rfl
    · cases turned : turn perform f s with
      | error e u =>
        rw [turned] at done
        cases done
      | ok goesOn u =>
        rw [turned] at done
        cases goesOn with
        | true => exact ih done
        | false =>
          cases done
          rfl

/-- A turn asks, reads, and handles what was read. -/
theorem turn_apply :
    turn perform f s = (readNext >>= stepLoop perform f)
      { s with stack := s.stack.note f .asks s.desk.waiting } := rfl

/-! ## Bodies and the dispatch of a line -/

/-- The state in which a line begins to be handled. -/
def State.begun (s : State) : State := { s with desk := { s.desk with status := 0 } }

/-- The state in which a body begins. -/
def entered (ctx : Context) (remainder : String) : State :=
  ⟨s.stack.note ctx.stack.top (.runs ctx.command remainder) s.desk.waiting,
    { s.desk with trailing := remainder }⟩

/-- The state after a body. -/
def cleared : State := { s with desk := { s.desk with trailing := "" } }

/-- What a body replies is a signal; what stops it is reported. -/
theorem performIn_apply (ctx : Context) :
    performIn perform ctx s = match perform ctx s with
      | .ok reply t => .ok (reply.toSignal ctx.command.keepsValue) t
      | .error e t => recover ctx.command e t := by
  unfold performIn
  rw [tryCatch_apply, bind_apply]
  cases perform ctx s <;> rfl

theorem runBody_apply (ctx : Context) (remainder : String) :
    runBody perform ctx remainder s = match performIn perform ctx (entered s ctx remainder) with
      | .ok signal t => .ok signal (cleared t)
      | .error e t => .error e (cleared t) := by
  unfold runBody
  rw [bind_apply, modifyDesk_apply]
  dsimp only
  rw [bind_apply, note_apply]
  change ShellM.afterwards _ _ (entered s ctx remainder) = _
  rw [afterwards_apply]
  cases performIn perform ctx (entered s ctx remainder) <;> rfl

theorem endState_runBody (ctx : Context) (remainder : String) :
    endState (runBody perform ctx remainder s) =
      cleared (endState (performIn perform ctx (entered s ctx remainder))) := by
  rw [runBody_apply]
  cases performIn perform ctx (entered s ctx remainder) <;> rfl

variable {perform s} in
/-- A body that has ended leaves no text at the desk. -/
theorem ends_runBody {ctx : Context} {remainder : String} {Q Q' : Signal → State → Prop}
    {E E' : State → Prop} {counts : Stop → Prop}
    (performed : Ends (performIn perform ctx (entered s ctx remainder)) Q E counts)
    (values : ∀ signal t, Q signal t → Q' signal (cleared t)) (stops : ∀ t, E t → E' (cleared t)) :
    Ends (runBody perform ctx remainder s) Q' E' counts := by
  rw [runBody_apply]
  cases done : performIn perform ctx (entered s ctx remainder) with
  | ok signal t => exact .ok (values signal t (performed.value done))
  | error e t => exact .error fun counted => stops t (performed.stop done counted)

/-- A line is matched, its command reads the rest of it, and the body runs unless the line asks for
help. -/
theorem dispatchWith_apply (line : String) :
    dispatchWith perform line s = match s.desk.registry.match? line with
      | none => .ok (.noSuchCommand (Text.trimEndOf ['\r', '\n'] line)) s
      | some m => match readOptions m.command m.remainder with
        | .error reason => .ok (.parseFailure reason m.command.name) s
        | .ok options =>
          if options.helpRequested then
            (do
              ShellM.ofDesk (DeskM.puts m.command.usageText)
              return .handled .skip : ShellM Outcome) s
          else
            let ctx : Context := ⟨m.command, line, options, s.stack.top.scope, s.stack⟩
            match runBody perform ctx m.remainder s with
            | .ok signal t => .ok (.handled signal) t
            | .error e t => .error e t := by
  unfold dispatchWith
  rw [bind_apply, get_apply]
  dsimp only
  cases s.desk.registry.match? line with
  | none => rfl
  | some m =>
    dsimp only
    cases readOptions m.command m.remainder with
    | error reason => rfl
    | ok options =>
      dsimp only
      by_cases help : options.helpRequested = true
      · rw [if_pos help, if_pos help]
      · rw [if_neg help, if_neg help, bind_apply]
        cases runBody perform _ m.remainder s <;> rfl

variable {perform s} in
/-- How the dispatch of a line ends follows from how the body ends, if one runs. Else the state is
the same, or a usage has been printed. -/
theorem ends_dispatchWith {line : String} {Q : Outcome → State → Prop} {E : State → Prop}
    {counts : Stop → Prop} (same : ∀ o, Q o s)
    (told : ∀ text,
      Ends (ShellM.ofDesk (DeskM.puts text) s) (fun _ t => ∀ o, Q o t) E counts)
    (ran : ∀ m options, s.desk.registry.match? line = some m →
      Ends (runBody perform ⟨m.command, line, options, s.stack.top.scope, s.stack⟩ m.remainder s)
        (fun signal => Q (.handled signal)) E counts) :
    Ends (dispatchWith perform line s) Q E counts := by
  rw [dispatchWith_apply]
  cases found : s.desk.registry.match? line with
  | none => exact .ok (same _)
  | some m =>
    dsimp only
    cases readOptions m.command m.remainder with
    | error reason => exact .ok (same _)
    | ok options =>
      dsimp only
      by_cases help : options.helpRequested = true
      · rw [if_pos help]
        exact (told m.command.usageText).bind fun _ t told => .pure (told _)
      · rw [if_neg help]
        have body := ran m options found
        cases done : runBody perform _ m.remainder s with
        | ok signal t => exact .ok (body.value done)
        | error e t => exact .error (body.stop done)

variable {s} in
/-- A line whose command can read the rest of it, and is not asked for help, runs the body. -/
theorem dispatchWith_body {line : String} {m : Registry.Match} {options : Options.Parsed}
    (found : s.desk.registry.match? line = some m)
    (read : readOptions m.command m.remainder = .ok options)
    (noHelp : options.helpRequested = false) :
    let ctx : Context := ⟨m.command, line, options, s.stack.top.scope, s.stack⟩
    dispatchWith perform line s = match performIn perform ctx (entered s ctx m.remainder) with
      | .ok signal t => .ok (.handled signal) (cleared t)
      | .error e t => .error e (cleared t) := by
  intro ctx
  rw [dispatchWith_apply, found]
  dsimp only
  rw [read]
  dsimp only
  rw [noHelp, if_neg Bool.false_ne_true, runBody_apply]
  cases performIn perform ctx (entered s ctx m.remainder) <;> rfl

variable {perform s} in
/-- What a line leads to: no command has it, its command cannot read it, its command only shows how
it is used, or the body of its command runs. -/
theorem dispatchWith_ok {line : String} {o : Outcome} {t : State}
    (done : dispatchWith perform line s = .ok o t) :
    (s.desk.registry.match? line = none ∧
      o = .noSuchCommand (Text.trimEndOf ['\r', '\n'] line) ∧ t = s) ∨
    (∃ reason command, o = .parseFailure reason command) ∨ o = .handled .skip ∨
    ∃ m options signal, s.desk.registry.match? line = some m ∧ o = .handled signal ∧
      runBody perform ⟨m.command, line, options, s.stack.top.scope, s.stack⟩ m.remainder s =
        .ok signal t := by
  rw [dispatchWith_apply] at done
  cases found : s.desk.registry.match? line with
  | none =>
    rw [found] at done
    cases done
    exact .inl ⟨rfl, rfl, rfl⟩
  | some m =>
    rw [found] at done
    dsimp only at done
    cases read : readOptions m.command m.remainder with
    | error reason =>
      rw [read] at done
      cases done
      exact .inr (.inl ⟨_, _, rfl⟩)
    | ok options =>
      rw [read] at done
      dsimp only at done
      by_cases help : options.helpRequested = true
      · rw [if_pos help] at done
        obtain ⟨_, _, _, done⟩ := bind_ok done
        cases done
        exact .inr (.inr (.inl rfl))
      · rw [if_neg help] at done
        cases ran : runBody perform ⟨m.command, line, options, s.stack.top.scope, s.stack⟩
            m.remainder s with
        | error e u =>
          rw [ran] at done
          cases done
        | ok signal u =>
          rw [ran] at done
          cases done
          exact .inr (.inr (.inr ⟨m, options, signal, rfl, rfl, ran⟩))

/-! ## Signals and the handling of a line -/

/-- The state after a signal that leaves a part of the stack. -/
def leftTo (k : Stack) (level value : Code.Value) : State :=
  ⟨k.note s.stack.top (.leaves s.stack.sessions level value) s.desk.waiting,
    { s.desk with unwound := value }⟩

theorem leaveTo_apply {k : Stack} {level value : Code.Value} (cut : s.stack.breakout level = .ok k) :
    leaveTo level value s = .ok true (leftTo s k level value) := by
  unfold leaveTo
  rw [bind_apply, get_apply]
  dsimp only
  rw [cut]
  rfl

/-- A signal to a level of the stack is obeyed. -/
theorem obey_signal {k : Stack} {level : Code.Value} (value : Code.Value)
    (cut : s.stack.breakout level = .ok k) :
    obey (.handled (.breakout level value)) s =
      .ok (some (.breakout level value)) (leftTo s k level value) := by
  change (do return if ← leaveTo level value then some (.breakout level value) else none :
    ShellM (Option Signal)) s = _
  rw [bind_apply, leaveTo_apply s cut]
  rfl

/-- Where there is no level to leave to, this is told. -/
theorem leaveTo_error {level : Code.Value} (value : Code.Value) {e : InvalidLevel}
    (refused : s.stack.breakout level = .error e) :
    leaveTo level value s =
      (do
        ShellM.ofDesk do DeskM.puts (← e.report)
        setStatus 1
        return false : ShellM Bool) s := by
  unfold leaveTo
  rw [bind_apply, get_apply]
  dsimp only
  rw [refused]

/-- What a line led to is not obeyed once a session below has been left, or the input has ended. -/
theorem obeyAt_apply (depth : Nat) (o : Outcome) :
    obeyAt depth o s =
      if s.stack.depth < depth || s.desk.exhausted then .ok none s else obey o s := by
  unfold obeyAt
  rw [bind_apply, get_apply]
  dsimp only
  split <;> rfl

/-- The state `t` in which what a line led to is obeyed; another last exception is noted. -/
def State.marked (s t : State) : State :=
  { t with desk :=
      if t.desk.lastException != s.desk.lastException then { t.desk with status := 1 }
      else t.desk }

variable {s} in
theorem State.marked_same {t : State} (same : t.desk.lastException = s.desk.lastException) :
    s.marked t = t := by
  unfold State.marked
  rw [same, if_neg (by simp)]

/-- Only the status of the desk can differ. -/
theorem State.marked_eq (t : State) :
    ∃ n, s.marked t = { t with desk := { t.desk with status := n } } := by
  unfold State.marked
  split
  · exact ⟨1, rfl⟩
  · exact ⟨t.desk.status, rfl⟩

/-- A line is handled by obeying what it leads to. -/
theorem handle_apply (line : String) :
    handle perform line s = match dispatchWith perform line s.begun with
      | .ok o t => obeyAt s.stack.depth o (s.marked t)
      | .error e t => .error e t := by
  unfold handle setStatus
  rw [bind_apply, get_apply]
  dsimp only
  rw [bind_apply, modifyDesk_apply]
  change (dispatchWith perform line >>= _) s.begun = _
  rw [bind_apply]
  cases dispatchWith perform line s.begun <;> rfl

variable {perform s} in
/-- How a line ends follows from how it is dispatched and how what it led to is obeyed, whichever
status the desk has by then. -/
theorem ends_handle {line : String} {Q : Outcome → State → Prop}
    {Q' : Option Signal → State → Prop} {E E' : State → Prop} {counts : Stop → Prop}
    (dispatched : Ends (dispatchWith perform line s.begun) Q E counts) (stops : ∀ t, E t → E' t)
    (obeyed : ∀ o t n, Q o t →
      Ends (obeyAt s.stack.depth o { t with desk := { t.desk with status := n } }) Q' E' counts) :
    Ends (handle perform line s) Q' E' counts := by
  rw [handle_apply]
  cases done : dispatchWith perform line s.begun with
  | error e t => exact .error fun counted => stops t (dispatched.stop done counted)
  | ok o t =>
    obtain ⟨n, same⟩ := s.marked_eq t
    dsimp only
    rw [same]
    exact obeyed o t n (dispatched.value done)

variable {perform s} in
/-- After a text that was handled the loop goes on while its session is open, unless the signal was
to that session. -/
theorem handleText_ok {text : String} {signal : Option Signal} {t : State}
    (handled : handle perform text s = .ok signal t) :
    handleText perform f text s = .ok (t.stack.contains f && !leavesTo f.level signal) t := by
  unfold handleText handleInterruptible ShellM.catching
  rw [bind_apply, tryCatch_apply, bind_apply, handled]
  rfl

/-! ## Lines that are taken -/

/-- The state in which a line has been taken. -/
def taken (line : String) : State :=
  let d := (joinLine s.desk line).1
  ⟨s.stack.note f (.takes line) d.waiting, d⟩

theorem taken_stack (line : String) : (taken f s line).stack =
    s.stack.note f (.takes line) (taken f s line).desk.waiting := by
  unfold taken
  dsimp only

theorem taken_journal (line : String) : (taken f s line).stack.journal = s.stack.journal ++
    [⟨f, .takes line, s.stack.sessions, (taken f s line).desk.waiting⟩] := by
  unfold taken Stack.note
  dsimp only

theorem taken_desk (line : String) : (taken f s line).desk = (joinLine s.desk line).1 := by
  unfold taken
  dsimp only

/-- The state in which a text has been handed on. -/
def submitted (text : String) : State :=
  let d := recordLine text s.desk
  ⟨s.stack.note f (.submits text) d.waiting, d⟩

theorem submitted_stack (text : String) : (submitted f s text).stack =
    s.stack.note f (.submits text) (submitted f s text).desk.waiting := rfl

theorem submitted_journal (text : String) :
    (submitted f s text).stack.journal = s.stack.journal ++
      [⟨f, .submits text, s.stack.sessions, (submitted f s text).desk.waiting⟩] := rfl

theorem submitted_desk (text : String) :
    (submitted f s text).desk = recordLine text s.desk := rfl

/-- A line that is taken completes a text, or it waits for others, or it is of no account. -/
theorem takeLine_apply (line : String) :
    takeLine f line s = match (joinLine s.desk line).2 with
      | none => .ok none (taken f s line)
      | some text =>
        if Text.isAllBlank text && s.desk.pending.isEmpty then .ok none (taken f s line)
        else .ok (some text) (submitted f (taken f s line) text) := by
  unfold takeLine
  rw [bind_apply, get_apply]
  dsimp only
  rw [bind_apply, modifyDesk_apply]
  dsimp only
  rw [bind_apply, note_apply]
  dsimp only
  cases (joinLine s.desk line).2 with
  | none => rfl
  | some text =>
    dsimp only
    by_cases blank : (Text.isAllBlank text && s.desk.pending.isEmpty) = true
    · rw [if_pos blank, if_pos blank]
      rfl
    · rw [if_neg blank, if_neg blank, bind_apply, modifyDesk_apply]
      dsimp only
      rw [bind_apply, note_apply]
      unfold submitted taken
      dsimp only
      rfl

variable {f s} in
theorem takeLine_some {line text : String} {t : State}
    (h : takeLine f line s = .ok (some text) t) : t = submitted f (taken f s line) text := by
  rw [takeLine_apply] at h
  cases complete : (joinLine s.desk line).2 with
  | none =>
    rw [complete] at h
    cases h
  | some whole =>
    rw [complete] at h
    dsimp only at h
    split at h
    · cases h
    · obtain ⟨same, ends⟩ := EStateM.Result.ok.inj h
      rw [← ends, Option.some.inj same]

/-! ## Texts that no command has -/

/-- The state in which a text has joined those that wait. -/
def keptWith (text : String) : State :=
  let d := { s.desk with pending := s.desk.pending ++ [text] }
  ⟨s.stack.note s.stack.top .keeps d.waiting, d⟩

/-- The state in which the texts that wait are to be evaluated. -/
def evaluating : State :=
  let d := { s.desk with pending := [] }
  ⟨s.stack.note s.stack.top (.evaluates s.desk.pending) d.waiting, d⟩

theorem keptWith_journal (text : String) :
    (keptWith s text).stack.journal = s.stack.journal ++
      [⟨s.stack.top, .keeps, s.stack.sessions, (keptWith s text).desk.waiting⟩] := rfl

theorem evaluating_journal : (evaluating s).stack.journal = s.stack.journal ++
    [⟨s.stack.top, .evaluates s.desk.pending, s.stack.sessions, (evaluating s).desk.waiting⟩] := rfl

/-- The evaluation of a text in the top session. -/
def evaluation (source : String) : ShellM Unit := fun u =>
  showEvaluated (DeskM.evaluate u.stack.top.scope source) u

/-- The evaluator runs on the texts that the journal tells of. -/
theorem evaluateTexts_apply (texts : List String) :
    evaluateTexts texts s = evaluation ("\n".intercalate texts)
      { s with stack := s.stack.note s.stack.top (.evaluates texts) s.desk.waiting } := by
  unfold evaluateTexts evaluation
  rw [bind_apply, get_apply]
  dsimp only
  rw [bind_apply, note_apply]
  rfl

/-- A text that no command has joins those that wait, and they are evaluated once they are
complete. -/
theorem handleUnmatched_apply (text : String) (evaluates : s.desk.evalUnmatched = true) :
    handleUnmatched text s =
      if Code.isComplete ("\n".intercalate (keptWith s text).desk.pending) then
        evaluation ("\n".intercalate (keptWith s text).desk.pending) (evaluating (keptWith s text))
      else .ok .unit (keptWith s text) := by
  unfold handleUnmatched
  rw [bind_apply, get_apply]
  dsimp only
  rw [evaluates, if_neg (by decide), bind_apply, modifyDesk_apply]
  dsimp only
  rw [bind_apply, note_apply]
  change (ite _ _ _ : ShellM Unit) (keptWith s text) = _
  by_cases complete : Code.isComplete ("\n".intercalate (keptWith s text).desk.pending) = true
  · have done : Code.isComplete ("\n".intercalate (s.desk.pending ++ [text])) = true := complete
    rw [if_pos complete, if_pos done, bind_apply, modifyDesk_apply]
    exact evaluateTexts_apply _ _
  · have more : ¬ Code.isComplete ("\n".intercalate (s.desk.pending ++ [text])) = true := complete
    rw [if_neg complete, if_neg more]
    rfl

/-- Where nothing is evaluated, a text that no command has is told to be unknown. -/
theorem handleUnmatched_unwilling (text : String) (unwilling : s.desk.evalUnmatched = false) :
    handleUnmatched text s =
      (do
        ShellM.ofDesk (DeskM.puts ("No such command: " ++ (Text.splitFirst text).1))
        setStatus 1 : ShellM Unit) s := by
  unfold handleUnmatched
  rw [bind_apply, get_apply]
  dsimp only
  rw [unwilling, if_pos (by decide)]

/-! ## Sessions -/

instance stack_ofDesk {α : Type} (p : DeskM α) :
    Stays (fun s t => t.stack = s.stack) (ShellM.ofDesk p) := by
  refine ⟨fun s => ?_⟩
  rw [ofDesk_apply]
  cases p s.desk <;> rfl

variable {f s}

/-- A session that is opened is the next one of the stack. -/
theorem openSession_ok {receiver : Code.Value} {t : State}
    (h : openSession receiver s = .ok f t) : ∃ scope label,
    f = s.stack.next receiver scope label ∧
      t.stack = (s.stack.push receiver scope label).note f .opens t.desk.waiting := by
  obtain ⟨_, _, look, h⟩ := bind_ok h
  cases look
  obtain ⟨scope, u, made, h⟩ := bind_ok h
  obtain ⟨label, v, shown, h⟩ := bind_ok h
  have same : v.stack = s.stack :=
    ((stack_ofDesk _).of_ok shown).trans ((stack_ofDesk _).of_ok made)
  cases h
  exact ⟨scope, label, rfl, by rw [← same]⟩

/-- Where no session is opened the stack stays. -/
theorem openSession_error {receiver : Code.Value} {t : State} {e : Stop}
    (h : openSession receiver s = .error e t) : t.stack = s.stack := by
  obtain look | ⟨_, _, look, h⟩ := bind_error h
  · cases look
  cases look
  obtain failed | ⟨scope, u, made, h⟩ := bind_error h
  · exact (stack_ofDesk _).of_error failed
  obtain failed | ⟨label, v, shown, h⟩ := bind_error h
  · exact ((stack_ofDesk _).of_error failed).trans ((stack_ofDesk _).of_ok made)
  · cases h

variable (s)

theorem startSession_apply (receiver : Code.Value) :
    startSession perform receiver s =
      match openSession receiver s with
      | .error e t => .error e t
      | .ok f t =>
        match sessionLoop perform f lineFuel t with
        | .ok v u => .ok v (close f (some v) u)
        | .error e u => .error e (close f none u) := by
  unfold startSession
  rw [bind_apply]
  cases openSession receiver s with
  | error e t => rfl
  | ok f t =>
    change ShellM.afterwards _ _ t = _
    rw [afterwards_apply]
    dsimp only
    cases sessionLoop perform f lineFuel t <;> rfl

variable {s}

/-- A session that gives a value was opened, and its loop gave that value. -/
theorem startSession_ok {receiver v : Code.Value} {t : State}
    (done : startSession perform receiver s = .ok v t) : ∃ f w u, openSession receiver s = .ok f w ∧
      sessionLoop perform f lineFuel w = .ok v u ∧ t = close f (some v) u := by
  rw [startSession_apply] at done
  cases opened : openSession receiver s with
  | error e w =>
    rw [opened] at done
    cases done
  | ok f w =>
    rw [opened] at done
    dsimp only at done
    cases looped : sessionLoop perform f lineFuel w with
    | error e u =>
      rw [looped] at done
      cases done
    | ok v' u =>
      rw [looped] at done
      cases done
      exact ⟨f, w, u, rfl, looped, rfl⟩

/-- Only with a way back left is a session started. -/
theorem reentry_start_ok {bodies : Bodies} {fuel : Nat} {receiver v : Code.Value} {t : State}
    (done : (reentry bodies fuel).start receiver s = .ok v t) :
    ∃ n, startSession (bodies (reentry bodies n)) receiver s = .ok v t := by
  cases fuel with
  | zero => cases done
  | succ n => exact ⟨n, done⟩

end NestShell.Shell

import NestShell.Proofs.Commands.Bodies
import NestShell.Proofs.Commands.Signals
import NestShell.Proofs.Shell.Containment

/-!
# The levels of signals

Each of the built-in commands reckons the level that it leaves its sessions for in its own way, and
`jump-to` also checks it by bounds of its own. A level that they reckon is always one that the stack
has when the signal is obeyed: no body that gives such a signal has touched the sessions, and
nothing happens to them between the end of a body and its signal. So it is never refused. Only what
the session that `cd` starts ends with is beyond their reckoning; it is checked when it is to be
obeyed. Aliases may come and go, but no line changes which commands there are.
-/

namespace NestShell.Shell

open NestShell.Code NestShell.Text

/-! ## The commands stay -/

def SameCommands (s t : State) : Prop := t.desk.registry.commands = s.desk.registry.commands

instance : Indifferent SameCommands where
  refl _ := rfl
  trans _ _ _ first second := Eq.trans second first
  desk same := same.commands
  text _ _ := rfl
  aside _ _ _ _ _ := rfl

instance : Permissive SameCommands where
  note _ _ _ _ _ := rfl
  register same := same.commands
  leaves _ _ _ _ _ _ := rfl
  carry _ _ := rfl
  cut _ _ := rfl

section Loops

variable {perform : Context → ShellM Reply} [∀ ctx, Stays SameCommands (perform ctx)]

instance sameCommands_note (f : Session) (e : Event) : Stays SameCommands (ShellM.note f e) :=
  .modify fun _ => rfl

instance sameCommands_recordLine (text : String) :
    Stays SameCommands (ShellM.modifyDesk (recordLine text)) :=
  .modify fun s => congrArg Registry.commands (recordLine_registry s.desk text)

instance sameCommands_turn (f : Session) : Stays SameCommands (turn perform f) := by
  unfold turn
  refine .bind inferInstance fun _ => .bind inferInstance fun r => ?_
  by_cases atEnd : r = .ended
  · rw [atEnd]
    exact stays_ended f (fun _ => rfl) inferInstance
  · exact stays_stepLoop f atEnd

theorem sameCommands_startSession (receiver : Value) :
    Stays SameCommands (startSession perform receiver) :=
  stays_startSession (fun _ => rfl) inferInstance inferInstance inferInstance receiver

end Loops

instance sameCommands_bodies (fuel : Nat) (ctx : Context) :
    Stays SameCommands (Commands.bodies (reentry Commands.bodies fuel) ctx) :=
  stays_reentry Commands.built_bodies DeskClosed.desk (fun _ _ => rfl)
    (fun _ _ => sameCommands_startSession) fuel ctx

/-- In the state, the line is given to its command with a number of a session below the top one. -/
def State.Lowers (s : State) (line : String) (n : Nat) : Prop :=
  ∃ m tokens options text rest, s.Admits line m tokens options ∧ options.args = text :: rest ∧
    int? text = some (n : Int) ∧ n < s.stack.depth

end NestShell.Shell

namespace NestShell.Commands

open NestShell.Code NestShell.Text NestShell.Shell

/-! ## Jumps -/

section Jumps

variable {ctx : Context}

theorem runJumpTo_below {text : String} {rest : List String} {n : Nat}
    (given : ctx.args = text :: rest) (number : int? text = some (n : Int))
    (below : n < ctx.stack.depth) : runJumpTo ctx = pure (leave n .none) := by
  have other : ((n : Int) == (ctx.stack.depth : Int)) = false := by
    rw [beq_eq_false_iff_ne]
    omega
  have inside : (decide (0 ≤ (n : Int)) && decide ((n : Int) < (ctx.stack.depth : Int))) = true := by
    simp only [Bool.and_eq_true, decide_eq_true_eq]
    omega
  unfold runJumpTo
  dsimp only
  rw [given]
  dsimp only
  rw [number]
  dsimp only
  rw [other, if_neg Bool.false_ne_true, if_pos inside, Int.toNat_natCast]

/-- For whatever else it is told it prints a text. -/
theorem runJumpTo_elsewhere
    (elsewhere : ∀ text rest (n : Nat), ctx.args = text :: rest → int? text = some (n : Int) →
      ¬ n < ctx.stack.depth) :
    ∃ text, runJumpTo ctx = do DeskM.puts text; return .skip := by
  unfold runJumpTo
  dsimp only
  cases given : ctx.args with
  | nil => exact ⟨_, rfl⟩
  | cons text rest =>
    dsimp only
    cases number : int? text with
    | none => exact ⟨_, rfl⟩
    | some target =>
      dsimp only
      split
      · exact ⟨_, rfl⟩
      · split
        · next inside =>
          simp only [Bool.and_eq_true, decide_eq_true_eq] at inside
          obtain ⟨n, rfl⟩ := Int.eq_ofNat_of_zero_le inside.1
          exact absurd (Int.ofNat_lt.mp inside.2) (elsewhere text rest n given number)
        · exact ⟨_, rfl⟩

end Jumps

section Lines

variable {back : Reentry} {s t : State} {line : String} {m : Registry.Match}

/-- Without a body of its own to run, a line that has a command leaves the sessions alone. -/
theorem refused_stays {o : Outcome} {text : String} (found : s.desk.registry.match? line = some m)
    (refuses : s.begun.Refuses line o text) (perform : Context → ShellM Reply) :
    ∃ t, handle perform line s = .ok none t ∧ t.stack = s.stack := by
  rw [handle_refused refuses]
  split
  · exact ⟨_, rfl, rfl⟩
  · cases refuses with
    | unmatched unmatched => cases found.symm.trans unmatched
    | unsplit => exact ⟨_, rfl, rfl⟩
    | unread => exact ⟨_, rfl, rfl⟩
    | help => exact ⟨_, rfl, rfl⟩

theorem bodies_jumpTo {ctx : Context} (body : ctx.command.body = .builtin .jumpTo) :
    bodies back ctx = ShellM.ofDesk (runJumpTo ctx) := by
  unfold bodies
  rw [body]
  rfl

/-- A signal is to a level of the stack on which the body of the line ended, or the session that `cd`
has started ended with it. -/
theorem level_of_signal (builtin : s.desk.registry.commands = registry.commands) {c : Command}
    {reply : Reply} {level value : Value}
    (runs : s.begun.RunsTo (bodies back) line c (.ok reply t))
    (signal : reply.toSignal c.keepsValue = .breakout level value) :
    (∃ n : Nat, level = .int n ∧ n ≤ t.stack.depth ∧ t.stack.sessions = s.stack.sessions) ∨
      c.name = "cd" ∧ ∃ receiver u, u.stack.sessions = s.stack.sessions ∧
        back.start receiver u = .ok (.breakout level value) t := by
  obtain ⟨m, tokens, options, admits, rfl, ran⟩ := runs
  have member : m.command ∈ registry.commands :=
    builtin ▸ Registry.mem_of_match? admits.found
  obtain ⟨same, names⟩ | ⟨name, handed⟩ := names_of_body member ran (target_of_signal signal)
  case inr =>
    cases handed with
    | @value receiver value' u t same started =>
      cases Reply.eq_breakout signal
      have sessions : u.stack.sessions = s.stack.sessions := by
        rw [same]
        rfl
      exact .inr ⟨name, receiver, u, sessions, started⟩
  left
  have sessions : t.stack.sessions = s.stack.sessions := by
    rw [same]
    rfl
  have deep : t.stack.depth = s.stack.depth := by
    rw [same]
    rfl
  rw [deep]
  cases names with
  | exit => exact ⟨_, rfl, Nat.le_refl _, sessions⟩
  | exitAll => exact ⟨0, rfl, Nat.zero_le _, sessions⟩
  | up => exact ⟨_, rfl, Nat.le_refl _, sessions⟩
  | bottom => exact ⟨0, rfl, Nat.zero_le _, sessions⟩
  | jump _ below => exact ⟨_, rfl, Nat.le_of_lt below, sessions⟩

/-- A signal to a level of the stack is obeyed while the input goes on. -/
theorem handle_signals {perform : Context → ShellM Reply} {c : Command} {reply : Reply} {n : Nat}
    {value : Value} (runs : s.begun.RunsTo perform line c (.ok reply t))
    (signal : reply.toSignal c.keepsValue = .breakout (.int n) value) (within : n ≤ t.stack.depth)
    (deep : s.stack.depth ≤ t.stack.depth) :
    handle perform line s =
      if t.desk.exhausted then .ok none (s.marked (cleared t))
      else .ok (some (.breakout (.int n) value))
        (leftTo (s.marked (cleared t)) (t.stack.cutAbove n) (.int n) value) := by
  have left : (s.marked (cleared t)).stack.breakout (.int n) = .ok (t.stack.cutAbove n) :=
    Stack.breakout_of_le _ within
  rw [handle_replies runs, signal, decide_eq_false (Nat.not_lt.mpr deep), Bool.false_or]
  split
  · rfl
  · exact obey_signal _ value left

/-- What becomes of any signal: it comes too late, it is obeyed, or its level is told. -/
theorem handle_handed {perform : Context → ShellM Reply} {c : Command} {reply : Reply}
    {level value : Value} (runs : s.begun.RunsTo perform line c (.ok reply t))
    (signal : reply.toSignal c.keepsValue = .breakout level value) :
    if t.stack.depth < s.stack.depth || t.desk.exhausted then
      handle perform line s = .ok none (s.marked (cleared t))
    else match t.stack.breakout level with
      | .ok k => handle perform line s = .ok (some (.breakout level value))
          (leftTo (s.marked (cleared t)) k level value)
      | .error f => Told perform s line (s.marked (cleared t)) f.report := by
  have handled := handle_replies runs
  rw [signal] at handled
  split
  · next late => rw [handled, if_pos late]
  · next early =>
    rw [if_neg early] at handled
    cases left : t.stack.breakout level with
    | ok k => exact handled.trans (obey_signal (s.marked (cleared t)) value left)
    | error f =>
      simp only [Bool.or_eq_true, decide_eq_true_eq, not_or, Nat.not_lt, Bool.not_eq_true] at early
      exact told_of_fails (.level runs signal early.1 early.2 left)

/-- A line with the number of a lower session leads there, unless the input has ended. -/
theorem jump_lowers (found : s.desk.registry.match? line = some m)
    (body : m.command.body = .builtin .jumpTo) {n : Nat} (lowers : s.Lowers line n) :
    ∃ t, handle (bodies back) line s =
        .ok (if s.desk.exhausted then none else some (.breakout (.int n) .none)) t ∧
      t.stack.sessions =
        if s.desk.exhausted then s.stack.sessions else s.stack.sessions.take (n + 1) := by
  obtain ⟨m', tokens, options, text, rest, admits, given, number, below⟩ := lowers
  obtain rfl : m' = m := Option.some.inj (admits.found.symm.trans found)
  let ctx : Context := ⟨m'.command, line, options, s.stack.top.scope, s.stack⟩
  let t := entered s.begun ctx m'.remainder
  have ran : bodies back ctx t = .ok (leave n .none) t := by
    rw [bodies_jumpTo body, @runJumpTo_below ctx _ _ _ given number below]
    rfl
  have admitted : s.begun.Admits line m' tokens options :=
    ⟨admits.found, admits.splits, admits.read, admits.noHelp⟩
  have runs : s.begun.RunsTo (bodies back) line m'.command (.ok (leave n .none) t) :=
    ⟨m', tokens, options, admitted, rfl, ran⟩
  have within : n ≤ t.stack.depth := Nat.le_of_lt below
  have handled := handle_signals runs rfl within (Nat.le_refl _)
  have goesOn : t.desk.exhausted = s.desk.exhausted := rfl
  rw [goesOn] at handled
  rw [handled]
  cases s.desk.exhausted with
  | true => exact ⟨_, rfl, rfl⟩
  | false => exact ⟨_, rfl, rfl⟩

/-- Another line of `jump-to` leaves the sessions alone. -/
theorem jump_stays (found : s.desk.registry.match? line = some m)
    (body : m.command.body = .builtin .jumpTo) (elsewhere : ∀ n, ¬ s.Lowers line n) :
    ∃ t, handle (bodies back) line s = .ok none t ∧ t.stack.sessions = s.stack.sessions := by
  rcases s.begun.admits_or_refuses line with ⟨m', tokens, options, admits⟩ | ⟨o, text, refuses⟩
  · obtain rfl : m' = m := Option.some.inj (admits.found.symm.trans found)
    let ctx : Context := ⟨m'.command, line, options, s.stack.top.scope, s.stack⟩
    have admitted : s.Admits line m' tokens options :=
      ⟨admits.found, admits.splits, admits.read, admits.noHelp⟩
    obtain ⟨text, told⟩ := @runJumpTo_elsewhere ctx
      (fun text rest n given number below =>
        elsewhere n ⟨m', tokens, options, text, rest, admitted, given, number, below⟩)
    have ran : bodies back ctx (entered s.begun ctx m'.remainder) =
        .ok .skip ((entered s.begun ctx m'.remainder).printed (wholeLines text)) := by
      rw [bodies_jumpTo body, told]
      rfl
    have runs : s.begun.RunsTo (bodies back) line m'.command (.ok .skip _) :=
      ⟨m', tokens, options, admits, rfl, ran⟩
    rw [handle_replies runs]
    split
    · exact ⟨_, rfl, rfl⟩
    · exact ⟨_, rfl, rfl⟩
  · obtain ⟨t, handled, same⟩ := refused_stays found refuses (bodies back)
    exact ⟨t, handled, congrArg Stack.sessions same⟩

end Lines

/-! ## All lines -/

/-- With the built-in commands, whatever their aliases, each signal that a body gives of its own is to
a session that is open when it is to be obeyed, and it is obeyed unless the input has ended. The one
other signal is what the session that `cd` has started ended with: it is obeyed as far as the stack
has its level, and otherwise told, which leaves all sessions as they are. A line of `jump-to` leaves
the sessions above just those that are below the top one, and no others. No line and no session
changes which commands there are. -/
theorem signals_obeyed (fuel : Nat) {s : State}
    (builtin : s.desk.registry.commands = registry.commands) (line : String) :
    let perform := bodies (reentry bodies fuel)
    (∀ c reply t level value, s.begun.RunsTo perform line c (.ok reply t) →
      reply.toSignal c.keepsValue = .breakout level value →
      (∃ n : Nat, level = .int n ∧ n ≤ t.stack.depth ∧ t.stack.sessions = s.stack.sessions ∧
        handle perform line s =
          if t.desk.exhausted then .ok none (s.marked (cleared t))
          else .ok (some (.breakout level value))
            (leftTo (s.marked (cleared t)) (t.stack.cutAbove n) level value)) ∨
      (c.name = "cd" ∧ ∃ receiver u, u.stack.sessions = s.stack.sessions ∧
        (reentry bodies fuel).start receiver u = .ok (.breakout level value) t ∧
        if t.stack.depth < s.stack.depth || t.desk.exhausted then
          handle perform line s = .ok none (s.marked (cleared t))
        else match t.stack.breakout level with
          | .ok k => handle perform line s = .ok (some (.breakout level value))
              (leftTo (s.marked (cleared t)) k level value)
          | .error f => Told perform s line (s.marked (cleared t)) f.report)) ∧
    (∀ m, s.desk.registry.match? line = some m → m.command.name = "jump-to" →
      (∀ n, s.Lowers line n → ∃ t, handle perform line s =
          .ok (if s.desk.exhausted then none else some (.breakout (.int n) .none)) t ∧
        t.stack.sessions =
          if s.desk.exhausted then s.stack.sessions else s.stack.sessions.take (n + 1)) ∧
      ((∀ n, ¬ s.Lowers line n) → ∃ t, handle perform line s = .ok none t ∧
        t.stack.sessions = s.stack.sessions)) ∧
    (endState (handle perform line s)).desk.registry.commands = registry.commands ∧
    ∀ f turns, (endState (sessionLoop perform f turns s)).desk.registry.commands =
      registry.commands := by
  intro perform
  refine ⟨?_, ?_, ?_, ?_⟩
  · intro c reply t level value runs signal
    obtain ⟨n, rfl, within, same⟩ | ⟨name, receiver, u, same, started⟩ :=
      level_of_signal builtin runs signal
    case inr => exact .inr ⟨name, receiver, u, same, started, handle_handed runs signal⟩
    left
    have deep : s.stack.depth = t.stack.depth := by
      have count := congrArg List.length same
      simp only [Stack.length_sessions] at count
      omega
    exact ⟨n, rfl, within, same, handle_signals runs signal within (Nat.le_of_eq deep)⟩
  · intro m found name
    have member : m.command ∈ registry.commands := builtin ▸ Registry.mem_of_match? found
    have body : m.command.body = .builtin .jumpTo :=
      body_of_name member (congrArg some name.symm)
    exact ⟨fun n => jump_lowers found body, jump_stays found body⟩
  · have stays : Stays SameCommands (handle perform line) := inferInstance
    exact (stays.within s).trans builtin
  · intro f turns
    exact ((stays_sessionLoop (S := SameCommands) inferInstance turns).within s).trans builtin

/-- A shell with an object that holds a signal, and a line that leaves a session with it. -/
def signalling : State :=
  freshOn {
    heap := #[.record (.ref 1) ⟨[("x", .breakout (.int 99) .none)]⟩,
      .cls {
        name := "Y", qualifiedName := "Y", bases := [.type "object"], order := [.type "object"]
        members := {}, file := "shapes.py", firstLine := 1, lastLine := 2 }] }
    [("y", .ref 0)] ["exit x"]

/-- Whether the dispatch of a line gives a signal that is refused when it is to be obeyed. -/
def givesRefused (depth : Nat) : EStateM.Result Stop State Outcome → Bool
  | .ok (.handled (.breakout level _)) t =>
    depth ≤ t.stack.depth && !t.desk.exhausted && !(t.stack.breakout level).isOk
  | _ => false

theorem refused_of_gives {depth : Nat} {r : EStateM.Result Stop State Outcome}
    (h : givesRefused depth r = true) : ∃ t level value f,
      r = .ok (.handled (.breakout level value)) t ∧ depth ≤ t.stack.depth ∧
        t.desk.exhausted = false ∧ t.stack.breakout level = .error f := by
  unfold givesRefused at h
  split at h
  · next level value t =>
    simp only [Bool.and_eq_true, Bool.not_eq_true', decide_eq_true_eq] at h
    obtain ⟨⟨deep, goesOn⟩, left⟩ := h
    cases cut : t.stack.breakout level with
    | ok k =>
      rw [cut] at left
      cases left
    | error f => exact ⟨t, level, value, f, rfl, deep, goesOn, cut⟩
  · cases h

/-- What a session ended with is a signal to a level that there is not. -/
theorem handed_signal_refused : ∃ t level value f,
    dispatchWith perform "cd y" signalling.begun = .ok (.handled (.breakout level value)) t ∧
      signalling.stack.depth ≤ t.stack.depth ∧ t.desk.exhausted = false ∧
      t.stack.breakout level = .error f :=
  refused_of_gives (by decide +kernel)

/-- From a session on the lowest one `jump-to` leads there, and not to the session itself. -/
theorem jump_to_lowest :
    let base := fresh []
    let s : State := { base with stack := base.stack.push .none base.stack.base.scope "None" }
    (∃ t, handle (bodies (reentry bodies 1)) "jump-to 0" s =
        .ok (some (.breakout (.int 0) .none)) t ∧ t.stack.sessions = [base.stack.base]) ∧
    ∃ t, handle (bodies (reentry bodies 1)) "jump-to 1" s = .ok none t ∧
      t.stack.sessions = s.stack.sessions := by
  intro base s
  have matched (text : String) (found : s.desk.registry.match? ("jump-to " ++ text) =
      some ⟨jumpTo, "jump-to", text⟩) :=
    (signals_obeyed 1 (s := s) (fresh_commands []) ("jump-to " ++ text)).2.1 _ found rfl
  constructor
  · have splits : Splits ⟨jumpTo, "jump-to", "0"⟩ ["0"] := .words (by decide +kernel)
    exact (matched "0" rfl).1 0 ⟨_, _, _, "0", [], ⟨rfl, splits, rfl, rfl⟩, rfl, rfl, by decide⟩
  · refine (matched "1" rfl).2 ?_
    rintro n ⟨m, tokens, options, text, rest, ⟨found, splits, read, -⟩, given, number, below⟩
    obtain rfl : ⟨jumpTo, "jump-to", "1"⟩ = m := Option.some.inj found
    obtain rfl : ["1"] = tokens := Except.ok.inj (tokensOf_eq_ok.mpr splits)
    obtain rfl : { args := ["1"] } = options := Except.ok.inj read
    obtain rfl : "1" = text := (List.cons.inj given).1
    obtain rfl : 1 = n := Int.ofNat.inj (Option.some.inj number)
    exact absurd below (by decide)

end NestShell.Commands

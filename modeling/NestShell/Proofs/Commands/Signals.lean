import NestShell.Proofs.Commands.Catalog
import NestShell.Proofs.Commands.Desk
import NestShell.Proofs.Shell.Line
import NestShell.Proofs.Shell.Loop

/-!
# The signals of the built-in commands

Four commands leave sessions, each to a level of its own reckoning: `exit` and `cd ..` leave the
session they are typed in, `exit-all` and `cd /` all that are nested, and `jump-to` goes down to the
level that it is told. One of them also hands on what the session that it started ended with, and
where that is itself a signal its level is whatever has been written there.
-/

namespace NestShell.Commands

open NestShell.Code NestShell.Shell

/-- The level that a command names for the rest of its line, in a session of the given depth. -/
inductive Names (c : Command) (rest : String) (depth : Nat) : Value → Prop where
  | exit : c.name = "exit" → Names c rest depth (.int depth)
  | exitAll : c.name = "exit-all" → Names c rest depth (.int 0)
  | up : c.name = "cd" → Text.trim rest = ".." → Names c rest depth (.int depth)
  | bottom : c.name = "cd" → Text.trim rest = "/" → 0 < depth → Names c rest depth (.int 0)
  | jump {n : Nat} : c.name = "jump-to" → n < depth → Names c rest depth (.int n)

section Bodies

variable {ctx : Context}

theorem exit_level : Gives (fun r => r.target? = some (.int ctx.stack.depth)) (runExit ctx) := by
  unfold runExit
  exact .bind fun v => gives_pure rfl

theorem exitAll_level : Gives (fun r => r.target? = some (.int 0)) (runExitAll ctx) := by
  unfold runExitAll
  exact .bind fun v => gives_pure rfl

/-- It only goes to sessions below its own. -/
theorem jumpTo_level : Gives (fun r => ∀ level, r.target? = some level →
    ∃ n : Nat, level = .int n ∧ n < ctx.stack.depth) (runJumpTo ctx) := by
  have stays {p : DeskM Unit} : Gives (fun r : Reply => ∀ level, r.target? = some level →
      ∃ n : Nat, level = .int n ∧ n < ctx.stack.depth) (do p; return .skip) :=
    .bind fun _ => gives_pure nofun
  unfold runJumpTo
  dsimp only
  split
  · exact stays
  · split
    · exact stays
    · next target _ =>
      split
      · exact stays
      · split
        · next inside =>
          simp only [Bool.and_eq_true, decide_eq_true_eq] at inside
          refine gives_pure fun level goes => ⟨target.toNat, (Option.some.inj goes).symm, ?_⟩
          omega
        · exact stays

variable {back : Reentry} {s t : State} {r : Reply} {level : Value}

/-- In the state, with the sessions still as they are, a session is started, and the value that it
ends with is a signal to the level, which is handed on. -/
inductive HandsOn (back : Reentry) (s : State) (level : Value) : Reply → State → Prop where
  | value {receiver value : Value} {u t : State} : u.stack = s.stack →
      back.start receiver u = .ok (.breakout level value) t →
      HandsOn back s level (.value (.breakout level value)) t

theorem startAttached_ok {receiver v : Value} (done : startAttached back receiver s = .ok v t) :
    back.start receiver s = .ok v t := by
  unfold startAttached at done
  obtain ⟨_, _, look, done⟩ := bind_ok done
  cases look
  split at done
  · exact done
  · rw [ofDesk_apply] at done
    cases done

/-- What `cd` leads to is a signal of its own, or one that the session it starts ended with. -/
theorem cd_level (done : runCd back ctx s = .ok r t) (goes : r.target? = some level) :
    (t.stack = s.stack ∧ (Text.trim s.desk.trailing = ".." ∧ level = .int ctx.stack.depth ∨
      Text.trim s.desk.trailing = "/" ∧ 0 < ctx.stack.depth ∧ level = .int 0)) ∨
    HandsOn back s level r t := by
  unfold runCd at done
  obtain ⟨text, u, read, done⟩ := bind_ok done
  obtain ⟨rfl, rfl⟩ : text = Text.trim s.desk.trailing ∧ u = s := by
    cases read
    exact ⟨rfl, rfl⟩
  cases there : Destination.ofText (Text.trim u.desk.trailing) with
  | nowhere =>
    rw [there] at done
    obtain ⟨_, _, _, done⟩ := bind_ok done
    cases done
    cases goes
  | up =>
    rw [there] at done
    cases done
    refine .inl ⟨rfl, .inl ⟨?_, (Option.some.inj goes).symm⟩⟩
    unfold Destination.ofText at there
    split at there <;> first | assumption | cases there
  | bottom =>
    rw [there] at done
    dsimp only at done
    by_cases nested : 0 < ctx.stack.depth
    · rw [if_pos nested] at done
      cases done
      refine .inl ⟨rfl, .inr ⟨?_, nested, (Option.some.inj goes).symm⟩⟩
      unfold Destination.ofText at there
      split at there <;> first | assumption | cases there
    · rw [if_neg nested] at done
      cases done
      cases goes
  | object source =>
    rw [there] at done
    obtain ⟨receiver, w, evaluated, done⟩ := bind_ok done
    obtain ⟨v, x, started, done⟩ := bind_ok done
    cases done
    cases v with
    | breakout level' value =>
      cases goes
      exact .inr (.value ((stack_ofDesk _).of_ok evaluated) (startAttached_ok started))
    | _ => cases goes

/-- Going up leaves the session of the line, be it the lowest one. -/
theorem cd_up (up : Text.trim s.desk.trailing = "..") :
    runCd back ctx s = .ok (leave ctx.stack.depth .none) s := by
  have read : ShellM.ofDesk trailingText s = .ok (Text.trim s.desk.trailing) s := rfl
  unfold runCd
  rw [bind_apply, read, up]
  rfl

/-- Where a built-in body gives a signal of its own, it has not touched the sessions. Otherwise it
is `cd` that hands one on. -/
theorem names_of_body (builtin : ctx.command ∈ registry.commands)
    (done : bodies back ctx s = .ok r t) (goes : r.target? = some level) :
    (t.stack = s.stack ∧ Names ctx.command s.desk.trailing ctx.stack.depth level) ∨
      ctx.command.name = "cd" ∧ HandsOn back s level r t := by
  obtain ⟨b, body⟩ := builtin_of_mem builtin
  unfold bodies at done
  rw [body] at done
  dsimp only at done
  unfold runBuiltin at done
  split at done
  · have name := name_of_body builtin body
    obtain ⟨same, ⟨up, rfl⟩ | ⟨bottom, nested, rfl⟩⟩ | handed := cd_level done goes
    · exact .inl ⟨same, .up name up⟩
    · exact .inl ⟨same, .bottom name bottom nested⟩
    · exact .inr ⟨name, handed⟩
  · unfold runNest at done
    obtain ⟨_, _, _, done⟩ := bind_ok done
    cases done
    cases goes
  · unfold runPydoc at done
    obtain ⟨_, _, _, done⟩ := bind_ok done
    obtain ⟨_, _, _, done⟩ := bind_ok done
    cases done
    cases goes
  · have same := (stack_ofDesk _).of_ok done
    rw [ofDesk_apply] at done
    cases given : runAtDesk ctx b s.desk with
    | error e d => rw [given] at done; cases done
    | ok reply d =>
      rw [given] at done
      cases done
      refine .inl ⟨same, ?_⟩
      cases leaves : mayLeave b with
      | false =>
        have remains : r.target? = none := (@remains_runAtDesk ctx b leaves).result given
        cases remains.symm.trans goes
      | true =>
        cases b with
        | exit =>
          cases (exit_level.result given).symm.trans goes
          exact .exit (name_of_body builtin body)
        | exitAll =>
          cases (exitAll_level.result given).symm.trans goes
          exact .exitAll (name_of_body builtin body)
        | jumpTo =>
          obtain ⟨n, rfl, below⟩ := jumpTo_level.result given level goes
          exact .jump (name_of_body builtin body) below
        | _ => cases leaves

/-- What went wrong in a body is reported, and no signal comes of it. -/
theorem recover_skips (c : Command) (e : Stop) : Gives (fun s => s = Signal.skip) (recover c e) := by
  have skips : Gives (fun s => s = Signal.skip) (pure .skip : DeskM Signal) := gives_pure rfl
  cases e with
  | evaluation e => exact .bind fun _ => gives_pure rfl
  | raised e =>
    have reported : Gives (fun s => s = Signal.skip) (do
      if ← DeskM.isA e "Exception" then
        modify fun d => { d with lastException := some e }
        DeskM.putsError ("Command '" ++ c.name ++ "' failed: " ++ (← DeskM.errorText e))
        return .skip
      else throw (.raised e) : DeskM Signal) := inferInstance
    exact gives_ofDesk
  | _ => exact gives_throw _

theorem target_of_signal {keepsValue : Bool} {value : Value}
    (signal : r.toSignal keepsValue = .breakout level value) : r.target? = some level := by
  cases r with
  | signal given =>
    cases signal
    rfl
  | value v =>
    obtain rfl := Reply.eq_breakout signal
    rfl

/-- A signal that a command's body ends with is the one it gave. -/
theorem performIn_signal {perform : Context → ShellM Reply} {value : Value}
    (done : performIn perform ctx s = .ok (.breakout level value) t) :
    ∃ r, perform ctx s = .ok r t ∧ r.toSignal ctx.command.keepsValue = .breakout level value := by
  rw [performIn_apply] at done
  cases performed : perform ctx s with
  | ok r u =>
    rw [performed] at done
    injection done with signal same
    subst same
    exact ⟨r, rfl, signal⟩
  | error e u =>
    rw [performed] at done
    cases (recover_skips ctx.command e).result done

/-- A signal comes from the body of the line's command, or from the session that it started. -/
theorem names_of_line {line : String} {value : Value}
    (builtin : s.desk.registry.commands = registry.commands)
    (done : dispatchWith (bodies back) line s = .ok (.handled (.breakout level value)) t) :
    ∃ m, s.desk.registry.match? line = some m ∧
      let k := s.stack.note s.stack.top (.runs m.command m.remainder) s.desk.waiting
      (Names m.command m.remainder s.stack.depth level ∧ t.stack = k) ∨
        m.command.name = "cd" ∧ ∃ receiver u v, u.stack = k ∧
          back.start receiver u = .ok (.breakout level value) v ∧ t.stack = v.stack := by
  rcases dispatchWith_ok done with
    ⟨-, other, -⟩ | ⟨_, _, other⟩ | other | ⟨m, options, signal, found, same, ran⟩
  · cases other
  · cases other
  · cases other
  · cases same
    rw [runBody_apply] at ran
    generalize performed : performIn _ _ _ = r at ran
    cases r with
    | error e v => cases ran
    | ok signal v =>
      cases ran
      obtain ⟨reply, given, goes⟩ := performIn_signal performed
      have member : m.command ∈ registry.commands := builtin ▸ Registry.mem_of_match? found
      refine ⟨m, found, ?_⟩
      obtain ⟨same, names⟩ | ⟨name, handed⟩ := names_of_body member given (target_of_signal goes)
      · exact .inl ⟨names, same⟩
      · cases handed with
        | value same started =>
          cases Reply.eq_breakout goes
          exact .inr ⟨name, _, _, v, same, started, rfl⟩

/-- A line that goes up leads to a signal to its own session. -/
theorem line_up {line : String} {m : Registry.Match} {options : Options.Parsed}
    (found : s.desk.registry.match? line = some m) (body : m.command.body = .builtin .cd)
    (up : Text.trim m.remainder = "..") (read : readOptions m.command m.remainder = .ok options)
    (asked : options.helpRequested = false) :
    dispatchWith (bodies back) line s =
      .ok (.handled (.breakout (.int s.stack.depth) .none))
        ⟨s.stack.note s.stack.top (.runs m.command m.remainder) s.desk.waiting,
          { s.desk with trailing := "" }⟩ := by
  have gave (ctx : Context) (same : ctx.command = m.command) :
      performIn (bodies back) ctx (entered s ctx m.remainder) =
        .ok (.breakout (.int ctx.stack.depth) .none) (entered s ctx m.remainder) := by
    have performed : bodies back ctx (entered s ctx m.remainder) =
        .ok (leave ctx.stack.depth .none) (entered s ctx m.remainder) := by
      unfold bodies
      rw [same, body]
      exact cd_up up
    rw [performIn_apply, performed]
    rfl
  rw [dispatchWith_body _ found read asked, gave _ rfl]
  rfl

end Bodies

end NestShell.Commands

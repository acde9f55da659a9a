import NestShell.Proofs.Commands.Bodies
import NestShell.Proofs.Shell.Fresh
import NestShell.Proofs.Shell.Handling

/-!
# Handling a line only ever cuts the stack

Whatever the bodies of commands do, and however deep they nest, the sessions that are open after a
line are the lowest ones of those that were open before it. So a loop that reads a line has its own
session on top.

Nothing is assumed of the state in which the line is handled, nor of what bodies do at the desk.
-/

namespace NestShell.Shell

/-- Where a loop asks for a line, its session is the top one. -/
def Entry.AsksOnTop (e : Entry) : Prop := e.event = .asks → e.sessions.getLast? = some e.session

/-- The journal goes on with entries of which each loop that asks for a line is on top. -/
def Watched (s t : Stack) : Prop :=
  ∃ new, t.journal = s.journal ++ new ∧ ∀ e ∈ new, e.AsksOnTop

namespace Watched

theorem of_same {s t : Stack} (same : t.journal = s.journal) : Watched s t :=
  ⟨[], by rw [same, List.append_nil], by simp⟩

theorem trans {s t u : Stack} (first : Watched s t) (second : Watched t u) : Watched s u := by
  obtain ⟨new, journal, onTop⟩ := first
  obtain ⟨newer, journal', onTop'⟩ := second
  refine ⟨new ++ newer, ?_, ?_⟩
  · rw [journal', journal, List.append_assoc]
  · intro e member
    rcases List.mem_append.mp member with old | young
    · exact onTop e old
    · exact onTop' e young

theorem note {s : Stack} (f : Session) (e : Event) (onTop : e = .asks → s.top = f) (n : Nat) :
    Watched s (s.note f e n) := by
  refine ⟨[⟨f, e, s.sessions, n⟩], rfl, ?_⟩
  intro entry member asks
  rw [List.mem_singleton.mp member] at asks ⊢
  rw [s.getLast?_sessions, onTop asks]

end Watched

/-- A later state: the sessions are the lowest ones of those before, and loops that asked for lines
meanwhile were on top. -/
structure Descends (s t : State) : Prop where
  sessions : t.stack.sessions <+: s.stack.sessions
  watched : Watched s.stack t.stack

namespace Descends

theorem of_stack {s t : State} (sessions : t.stack.sessions <+: s.stack.sessions)
    (journal : t.stack.journal = s.stack.journal) : Descends s t :=
  ⟨sessions, .of_same journal⟩

theorem of_same {s t : State} (same : t.stack = s.stack) : Descends s t :=
  of_stack (same ▸ List.prefix_rfl) (same ▸ rfl)

theorem trans {s t u : State} (first : Descends s t) (second : Descends t u) : Descends s u :=
  ⟨second.sessions.trans first.sessions, first.watched.trans second.watched⟩

theorem note {s : State} (f : Session) (e : Event) (onTop : e = .asks → s.stack.top = f)
    (n : Nat) : Descends s { s with stack := s.stack.note f e n } :=
  ⟨List.prefix_rfl, .note f e onTop n⟩

instance : Indifferent Descends where
  refl _ := of_same rfl
  trans _ _ _ := trans
  desk _ := of_same rfl
  text _ _ := of_same rfl
  aside s f _ _ h := note f _ (fun asks => by subst asks; cases h) _

instance : Permissive Descends where
  note s f e n handling := note f e (fun asks => by subst asks; cases handling) n
  register _ := of_same rfl
  leaves s f left level value n := note f (.leaves left level value) nofun n
  carry _ _ := of_same rfl
  cut sessions journal := of_stack sessions journal

theorem release (s : State) (f : Session) : Descends s { s with stack := s.stack.release f } :=
  of_stack (s.stack.release_prefix f) (s.stack.release_journal f)

end Descends

/-! ## Turns of a loop -/

section Turn

variable {perform : Context → ShellM Reply}

instance descends_stepLoop [∀ ctx, Stays Descends (perform ctx)] (f : Session) (r : Reading) :
    Stays Descends (stepLoop perform f r) := by
  by_cases atEnd : r = .ended
  · subst atEnd
    exact stays_ended f (fun _ => .of_same rfl) (.modify fun _ => .note f .ends nofun _)
  · have taken (g : Session) (line : String) : Stays Descends (ShellM.note g (.takes line)) :=
      .modify fun s => .note g (.takes line) nofun _
    have recorded (text : String) : Stays Descends (ShellM.modifyDesk (recordLine text)) :=
      .modify fun _ => .of_same rfl
    exact stays_stepLoop f atEnd

section Below

variable {f : Session} {lower : List Session} {s : State} (level : lower.length = f.level)
  (below : s.stack.sessions <+: lower ++ [f]) (inside : s.stack.contains f = true)
include level below inside

/-- A line is asked for where the session is on top. -/
theorem descends_asks : Descends s { s with stack := s.stack.note f .asks s.desk.waiting } := by
  have whole := s.stack.eq_of_contains level below inside
  have onTop : s.stack.top = f := s.stack.top_of_last (by rw [whole, List.getLast?_concat])
  exact .note f .asks (fun _ => onTop) _

theorem descends_turn [∀ ctx, Stays Descends (perform ctx)] :
    Descends s (endState (turn perform f s)) := by
  have answered : Stays Descends (readNext >>= stepLoop perform f) := inferInstance
  rw [turn_apply]
  exact (descends_asks level below inside).trans (answered.within _)

end Below

/-- A loop whose session is on top or over. The sessions below it are the `lower` ones. -/
theorem descends_sessionLoop [∀ ctx, Stays Descends (perform ctx)] {f : Session}
    {lower : List Session} (level : lower.length = f.level) (fuel : Nat) (s : State)
    (below : s.stack.sessions <+: lower ++ [f]) :
    Descends s (endState (sessionLoop perform f fuel s)) := by
  have inside {s : State} (goesOn : ¬ (!s.stack.contains f || s.desk.exhausted) = true) :
      s.stack.contains f = true := by
    simp only [Bool.or_eq_true, Bool.not_eq_eq_eq_not, Bool.not_true, not_or,
      Bool.not_eq_false] at goesOn
    exact goesOn.1
  induction fuel generalizing s with
  | zero =>
    rw [sessionLoop_zero]
    split
    · exact .of_same rfl
    · next goesOn => exact descends_asks level below (inside goesOn)
  | succ fuel ih =>
    rw [sessionLoop_succ]
    split
    · exact .of_same rfl
    · next goesOn =>
      have turned : Descends s (endState (turn perform f s)) :=
        descends_turn level below (inside goesOn)
      cases h : turn perform f s with
      | error e t => rwa [h] at turned
      | ok goesOn t =>
        rw [h] at turned
        cases goesOn with
        | true => exact turned.trans (ih t (turned.sessions.trans below))
        | false => exact turned

/-- The session that is started is gone again at the end, or it was gone already. -/
instance descends_startSession [∀ ctx, Stays Descends (perform ctx)] (receiver : Code.Value) :
    Stays Descends (startSession perform receiver) := by
  refine ⟨fun s => ?_⟩
  rw [startSession_apply]
  cases opened : openSession receiver s with
  | error e t => exact .of_same (openSession_error opened)
  | ok f t =>
    obtain ⟨scope, label, rfl, pushed⟩ := openSession_ok opened
    have level : s.stack.sessions.length = (s.stack.next receiver scope label).level := rfl
    have top : t.stack.sessions = s.stack.sessions ++ [s.stack.next receiver scope label] := by
      rw [pushed]; rfl
    have looped : Descends t (endState (sessionLoop perform _ lineFuel t)) :=
      descends_sessionLoop level lineFuel t (top ▸ List.prefix_rfl)
    dsimp only
    generalize sessionLoop perform _ lineFuel t = r at looped ⊢
    have closed (result : Option Code.Value) (u : State) (h : Descends t u) :
        Descends s (close (s.stack.next receiver scope label) result u) := by
      have opened : Watched s.stack t.stack := by
        rw [pushed]
        exact .trans (.of_same rfl) (.note _ .opens nofun _)
      refine ⟨u.stack.release_below level (Nat.succ_ne_zero _) (top ▸ h.sessions), ?_⟩
      exact opened.trans (h.watched.trans (.trans (.of_same (u.stack.release_journal _))
        (.note _ (.closes result) nofun _)))
    cases r with
    | ok v u => exact closed _ u looped
    | error e u => exact closed _ u looped

end Turn

/-! ## Every nesting -/

/-- Bodies that do at the desk what they like. -/
abbrev BuiltFreely (bodies : Bodies) : Prop :=
  ∀ back ctx, Built (fun _ _ => True) back (bodies back ctx)

theorem descends_body {bodies : Bodies} (built : BuiltFreely bodies) (fuel : Nat) (ctx : Context) :
    Stays Descends (bodies (reentry bodies fuel) ctx) :=
  stays_reentry built (fun _ => .of_same rfl) .release (fun _ _ => descends_startSession) fuel ctx

/-- After a line the open sessions are the lowest ones of those before it, at least one of them, and
no loop asked for a line but on top. The same holds of a loop that begins on top. -/
theorem handle_leaves_lowest (bodies : Bodies) (built : BuiltFreely bodies) (fuel : Nat)
    (s : State) :
    (∀ line, let t := endState (handle (bodies (reentry bodies fuel)) line s)
      t.stack.sessions <+: s.stack.sessions ∧ t.stack.sessions ≠ [] ∧ Watched s.stack t.stack) ∧
    ∀ f lines, s.stack.top = f → f.level = s.stack.depth →
      let t := endState (sessionLoop (bodies (reentry bodies fuel)) f lines s)
      t.stack.sessions <+: s.stack.sessions ∧ t.stack.sessions ≠ [] ∧
        Watched s.stack t.stack := by
  have body (ctx : Context) := descends_body built fuel ctx
  constructor
  · intro line
    have handled : Stays Descends (handle (bodies (reentry bodies fuel)) line) := inferInstance
    have ends := handled.within s
    exact ⟨ends.sessions, Stack.sessions_ne_nil _, ends.watched⟩
  · rintro f lines rfl level
    obtain ⟨lower, whole, count⟩ := s.stack.sessions_eq_concat_top
    have ends : Descends s (endState (sessionLoop (bodies (reentry bodies fuel)) s.stack.top lines s)) :=
      descends_sessionLoop (count.trans level.symm) lines s (whole ▸ List.prefix_rfl)
    exact ⟨ends.sessions, Stack.sessions_ne_nil _, ends.watched⟩

/-- The built-in commands, and a line that starts a session. -/
theorem nest_leaves_lowest :
    let t := endState (handle (Commands.bodies (reentry Commands.bodies 2)) "!nest" (fresh ["1"]))
    t.stack.sessions <+: (fresh ["1"]).stack.sessions ∧ t.stack.sessions ≠ [] ∧
      Watched (fresh ["1"]).stack t.stack :=
  (handle_leaves_lowest Commands.bodies (fun back ctx =>
    (Commands.built_bodies back ctx).mono fun _ _ _ => trivial) 2 (fresh ["1"])).1 "!nest"

end NestShell.Shell

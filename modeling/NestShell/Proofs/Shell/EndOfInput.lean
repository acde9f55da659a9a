import Mathlib.Data.List.Basic
import NestShell.Proofs.Shell.Ending
import NestShell.Shell.Transcript

/-!
# The end of input

When a loop finds that its input has ended, all loops below it end as well. The bodies between them
still give values, but no value is shown and no signal is obeyed any more, and no loop asks for
another line: each session is closed without a value, from the top down to the lowest one.

A run is in one of two conditions: no loop has found its input ended yet, or one has, and then
nothing is left to do but to return.
-/

namespace NestShell.Shell

open NestShell.Code

variable {α β : Type} {rs lower : List Session} {f g : Session} {s t u v : State}

/-- No loop has found its input ended. -/
structure Live (s : State) : Prop where
  goesOn : s.desk.exhausted = false
  silent : ∀ e ∈ s.stack.journal, e.event ≠ .ends

/-- The ends of the sessions above some others, the highest first, each without a value. -/
def closings : List Session → List Session → List (Session × Event × List Session)
  | _, [] => []
  | lower, f :: above => closings (lower ++ [f]) above ++ [(f, .closes (some .none), lower)]

/-- The loop of the session `f` found in the state `v` that its input had ended, as the first one. -/
structure FindsEnd (f : Session) (v : State) : Prop where
  read : ∃ u : State, readNext { u with stack := u.stack.note f .asks u.desk.waiting } = .ok .ended v
  top : v.stack.sessions.getLast? = some f
  silent : ∀ e ∈ v.stack.journal, e.event ≠ .ends

/-- A loop has found its input ended, and the loops that still run are down to `rs`. -/
structure Over (f : Session) (v : State) (rs : List Session) (s : State) : Prop where
  found : FindsEnd f v
  sessions : s.stack.sessions = rs
  exhausted : s.desk.exhausted = true
  unwound : s.desk.unwound = .none
  source : s.desk.source = v.desk.source
  replay : s.desk.replay = v.desk.replay
  output : s.desk.machine.output = v.desk.machine.output ++ "\n"
  journal : ∃ above n post, v.stack.sessions = rs ++ above ∧
    s.stack.journal = v.stack.journal ++ ⟨f, .ends, v.stack.sessions, n⟩ :: post ∧
    post.map Entry.what = closings rs above

/-! ## Before the end -/

namespace Live

theorem note (h : Live s) (f : Session) {e : Event} (n : Nat) (other : e ≠ .ends) :
    Live { s with stack := s.stack.note f e n } := by
  refine ⟨h.goesOn, fun d member => ?_⟩
  rcases List.mem_append.mp member with old | new
  · exact h.silent d old
  · rw [List.mem_singleton.mp new]
    exact other

theorem desk (h : Live s) {d : Desk} (same : d.exhausted = s.desk.exhausted) :
    Live { s with desk := d } := ⟨same.trans h.goesOn, h.silent⟩

theorem restack (h : Live s) {k : Stack} (same : k.journal = s.stack.journal) :
    Live { s with stack := k } := ⟨h.goesOn, fun e member => h.silent e (same ▸ member)⟩

instance : Indifferent (Preserves Live) where
  desk same h := h.desk same.exhausted
  text _ _ h := h.desk rfl
  aside _ f e n aside h := h.note f n (by rintro rfl; cases aside)

instance : Permissive (Preserves Live) where
  note _ f e n handling h := h.note f n (by rintro rfl; cases handling)
  register same h := h.desk same.exhausted
  leaves _ f _ _ _ n h := h.note f n nofun
  carry _ _ h := h.desk rfl
  cut _ journal h := h.restack journal

theorem stays_note (f : Session) {e : Event} (other : e ≠ .ends) :
    Stays (Preserves Live) (ShellM.note f e) := .modify fun _ h => h.note f _ other

instance (f : Session) (line : String) : Stays (Preserves Live) (ShellM.note f (.takes line)) :=
  stays_note f nofun

instance (text : String) : Stays (Preserves Live) (ShellM.modifyDesk (recordLine text)) :=
  .modify fun s h => h.desk (recordLine_exhausted s.desk text)

end Live

/-! ## After the end -/

namespace Over

/-- Marks at the desk that concern the line which was handled. -/
theorem desk (h : Over f v rs s) {d : Desk} (exhausted : d.exhausted = s.desk.exhausted)
    (unwound : d.unwound = s.desk.unwound) (source : d.source = s.desk.source)
    (replay : d.replay = s.desk.replay) (machine : d.machine = s.desk.machine) :
    Over f v rs { s with desk := d } where
  found := h.found
  sessions := h.sessions
  exhausted := exhausted.trans h.exhausted
  unwound := unwound.trans h.unwound
  source := source.trans h.source
  replay := replay.trans h.replay
  output := by
    dsimp only
    rw [machine]
    exact h.output
  journal := h.journal

theorem close (h : Over f v (rs ++ [g]) s) (level : rs.length = g.level) (started : g.level ≠ 0) :
    Over f v rs (close g (some .none) s) where
  found := h.found
  sessions := s.stack.release_top level started h.sessions
  exhausted := h.exhausted
  unwound := h.unwound
  source := h.source
  replay := h.replay
  output := h.output
  journal := by
    obtain ⟨above, n, post, whole, journal, closes⟩ := h.journal
    refine ⟨g :: above, n, post ++ [⟨g, .closes (some .none), rs, s.desk.waiting⟩], ?_, ?_, ?_⟩
    · rw [whole, List.append_assoc, List.singleton_append]
    · change (s.stack.release g).journal ++ [⟨g, _, (s.stack.release g).sessions, _⟩] = _
      rw [s.stack.release_journal, s.stack.release_top level started h.sessions, journal,
        List.append_assoc, List.cons_append]
    · rw [List.map_append, closes, closings]
      rfl

end Over

/-- The loop that finds its input ended tells so and writes an empty line. -/
theorem over_of_ended (perform : Context → ShellM Reply)
    (read : readNext { u with stack := u.stack.note f .asks u.desk.waiting } = .ok .ended v)
    (sessions : v.stack.sessions = lower ++ [f]) (live : Live v) :
    ∃ t, stepLoop perform f .ended v = .ok false t ∧ Over f v (lower ++ [f]) t := by
  refine ⟨_, rfl, ?_⟩
  exact {
    found := ⟨⟨u, read⟩, sessions ▸ List.getLast?_concat, live.silent⟩
    sessions := sessions
    exhausted := rfl
    unwound := rfl
    source := rfl
    replay := rfl
    output := rfl
    journal := ⟨[], _, [], by rw [sessions, List.append_nil], rfl, rfl⟩ }

/-! ## Bodies and their lines -/

/-- A computation comes back before a loop has found its input ended, or after that with no loops
above those of `rs`. If it stops it does so before, whatever stops it. -/
def MayEnd (rs : List Session) (r : EStateM.Result Stop State α) : Prop :=
  Ends r (fun _ t => Live t ∨ ∃ f v, Over f v rs t) Live fun _ => True

namespace MayEnd

theorem of_stays {p : ShellM α} (h : Stays (Preserves Live) p) (live : Live s) :
    MayEnd rs (p s) := (Ends.of_stays h live).mono (fun _ _ => .inl) fun _ => id

/-- What comes after may only mark the line as handled once the input has ended. -/
theorem bind {p : ShellM α} {q : α → ShellM β} (first : MayEnd rs (p s))
    (before : ∀ a t, Live t → MayEnd rs (q a t))
    (after : ∀ a f v t, Over f v rs t → MayEnd rs (q a t)) : MayEnd rs ((p >>= q) s) := by
  refine Ends.bind first ?_
  rintro a t (live | ⟨f, v, past⟩)
  · exact before a t live
  · exact after a f v t past

theorem past {a : α} (h : Over f v rs s) : MayEnd rs (.ok a s : EStateM.Result Stop State α) :=
  .ok (.inr ⟨f, v, h⟩)

end MayEnd

/-- Bodies of the built-in commands. -/
abbrev BodiesMayEnd (rs : List Session) (perform : Context → ShellM Reply) : Prop :=
  ∀ ctx s, ctx.command ∈ Commands.registry.commands → Steady rs s → Live s →
    MayEnd rs (perform ctx s)

section Line

variable {perform : Context → ShellM Reply}

theorem performIn_mayEnd (bodies : BodiesMayEnd rs perform) {ctx : Context}
    (builtin : ctx.command ∈ Commands.registry.commands) (steady : Steady rs s) (live : Live s) :
    MayEnd rs (performIn perform ctx s) := by
  have replied : MayEnd rs ((perform ctx >>= fun reply =>
      pure (reply.toSignal ctx.command.keepsValue) : ShellM Signal) s) :=
    (bodies ctx s builtin steady live).bind (fun _ _ live => .of_stays (stays_pure _) live)
      fun _ _ _ _ past => .past past
  exact replied.tryCatch (fun _ _ left => absurd trivial left) fun e t live =>
    (Ends.of_stays (inferInstance : Stays (Preserves Live) (recover ctx.command e)) live).mono
      (fun _ _ => .inl) fun _ => id

theorem runBody_mayEnd (bodies : BodiesMayEnd rs perform) {ctx : Context}
    (builtin : ctx.command ∈ Commands.registry.commands) (remainder : String)
    (steady : Steady rs s) (live : Live s) : MayEnd rs (runBody perform ctx remainder s) := by
  have performed : MayEnd rs (performIn perform ctx (entered s ctx remainder)) :=
    performIn_mayEnd bodies builtin ((steady.note ctx.stack.top _ id).desk rfl)
      ((live.note ctx.stack.top (e := .runs ctx.command remainder) _ nofun).desk rfl)
  refine ends_runBody performed ?_ fun _ live => live.desk rfl
  rintro signal t (live | ⟨f, v, past⟩)
  · exact .inl (live.desk rfl)
  · exact .inr ⟨f, v, past.desk rfl rfl rfl rfl rfl⟩

theorem line_mayEnd (bodies : BodiesMayEnd rs perform) (line : String) (steady : Steady rs s)
    (live : Live s) : MayEnd rs (dispatchWith perform line s) := by
  have told (text : String) : Stays (Preserves Live) (ShellM.ofDesk (DeskM.puts text)) :=
    inferInstance
  refine ends_dispatchWith (fun _ => .inl live) (fun text => ?_) fun m options found => ?_
  · exact (Ends.of_stays (told text) live).mono (fun _ _ live _ => .inl live) fun _ => id
  · have builtin : m.command ∈ Commands.registry.commands :=
      steady.commands ▸ Registry.mem_of_match? found
    exact runBody_mayEnd bodies builtin _ steady live

/-- Once the input has ended, what a line led to is not obeyed. -/
theorem obeyAt_over (h : Over f v rs s) (depth : Nat) (o : Outcome) :
    obeyAt depth o s = .ok none s := by
  rw [obeyAt_apply, h.exhausted, Bool.or_true, if_pos rfl]

theorem handle_mayEnd (bodies : BodiesMayEnd rs perform) (line : String) (steady : Steady rs s)
    (live : Live s) : MayEnd rs (handle perform line s) := by
  have dispatched : MayEnd rs (dispatchWith perform line s.begun) :=
    line_mayEnd bodies line (steady.desk rfl) (live.desk rfl)
  refine ends_handle dispatched (fun _ => id) fun o t n ends => ?_
  rcases ends with live | ⟨f, v, past⟩
  · have marked := live.desk (d := { t.desk with status := n }) rfl
    exact MayEnd.of_stays inferInstance marked
  · have marked := past.desk (d := { t.desk with status := n }) rfl rfl rfl rfl rfl
    rw [obeyAt_over marked]
    exact MayEnd.past marked

theorem handleText_mayEnd (bodies : BodiesMayEnd rs perform) (g : Session) (text : String)
    (steady : Steady rs s) (live : Live s) : MayEnd rs (handleText perform g text s) := by
  have handled : Ends (handleInterruptible perform text s)
      (fun r t => Live t ∨ r ≠ none ∧ ∃ f v, Over f v rs t) Live fun _ => True := by
    refine ends_catching (fun _ => trivial) ?_ fun e t live => ?_
    · refine Ends.bind (handle_mayEnd bodies text steady live) ?_
      rintro signal t (live | past)
      · exact .ok (.inl live)
      · exact .ok (.inr ⟨nofun, past⟩)
    · have told : Stays (Preserves Live) (do
          resetBuffers
          ShellM.ofDesk (DeskM.puts "^C")
          return none : ShellM (Option (Option Signal))) := inferInstance
      exact (Ends.of_stays told live).mono (fun _ _ => .inl) fun _ => id
  unfold handleText
  refine Ends.bind handled ?_
  rintro (_ | signal) t (live | ⟨given, f, v, past⟩)
  · exact .ok (.inl (live.note g _ nofun))
  · exact absurd rfl given
  · exact .ok (.inl live)
  · exact MayEnd.past past

theorem stepLoop_mayEnd (bodies : BodiesMayEnd (lower ++ [g]) perform) {r : Reading}
    (read : readNext { u with stack := u.stack.note g .asks u.desk.waiting } = .ok r s)
    (steady : Steady (lower ++ [g]) s) (live : Live s) :
    MayEnd (lower ++ [g]) (stepLoop perform g r s) := by
  cases r with
  | ended =>
    obtain ⟨t, done, past⟩ := over_of_ended perform read steady.sessions live
    rw [done]
    exact .past past
  | interrupted =>
    have told : Stays (Preserves Live) (do
        resetBuffers
        ShellM.ofDesk (DeskM.puts "")
        ShellM.note g .interrupted
        return true : ShellM Bool) := by
      have noted : Stays (Preserves Live) (ShellM.note g .interrupted) := Live.stays_note g nofun
      infer_instance
    exact .of_stays told live
  | line line =>
    have taken : Stays (Preserves Live) (takeLine g line) := inferInstance
    have steadily : Stays (Preserves (Steady (lower ++ [g]))) (takeLine g line) := inferInstance
    rw [stepLoop, bind_apply]
    cases took : takeLine g line s with
    | error e t => exact .error fun _ => taken.of_error took live
    | ok text t =>
      have live := taken.of_ok took live
      cases text with
      | none => exact .ok (.inl live)
      | some text => exact handleText_mayEnd bodies g text (steadily.of_ok took steady) live

theorem turn_mayEnd (bodies : BodiesMayEnd (lower ++ [g]) perform)
    (ready : Steady (lower ++ [g]) s ∨ ∃ x p, Resumes x g (lower ++ [g]) p s) (live : Live s) :
    MayEnd (lower ++ [g]) (turn perform g s) := by
  have asked := steady_asked ready
  have looked : Stays (Preserves (Steady (lower ++ [g]))) readNext := inferInstance
  have read : Stays (Preserves Live) readNext := inferInstance
  have live := live.note g (e := .asks) s.desk.waiting nofun
  rw [turn_apply, bind_apply]
  cases reading : readNext { s with stack := s.stack.note g .asks s.desk.waiting } with
  | error e t => exact .error fun _ => read.of_error reading live
  | ok r t =>
    exact stepLoop_mayEnd bodies reading (looked.of_ok reading asked) (read.of_ok reading live)

/-- Once the input has ended a loop returns, without another line and without a value. -/
theorem sessionLoop_over (h : Over f v rs s) (fuel : Nat) :
    sessionLoop perform g fuel s = .ok .none s := by
  cases fuel with
  | zero => rw [sessionLoop_zero, h.exhausted, Bool.or_true, if_pos rfl, h.unwound]
  | succ fuel => rw [sessionLoop_succ, h.exhausted, Bool.or_true, if_pos rfl, h.unwound]

theorem sessionLoop_mayEnd (bodies : BodiesMayEnd (lower ++ [g]) perform)
    (answering : BodiesEnd (lower ++ [g]) perform) (level : lower.length = g.level) (fuel : Nat)
    (ready : Steady (lower ++ [g]) s ∨ ∃ x p, Resumes x g (lower ++ [g]) p s) (live : Live s) :
    Ends (sessionLoop perform g fuel s)
      (fun w t => Live t ∨ w = .none ∧ ∃ f v, Over f v (lower ++ [g]) t) Live fun _ => True := by
  induction fuel generalizing s with
  | zero =>
    rw [sessionLoop_zero]
    split
    · exact .ok (.inl live)
    · exact .error fun _ => live.note g (e := .asks) s.desk.waiting nofun
  | succ fuel ih =>
    rw [sessionLoop_succ]
    split
    · exact .ok (.inl live)
    · have turned := turn_mayEnd bodies ready live
      have found := turn_ends answering level ready
      cases h : turn perform g s with
      | error e t => exact .error (turned.stop h)
      | ok goesOn t =>
        rcases turned.value h with live | ⟨f, v, past⟩
        · cases found.value h with
          | steady steady => exact ih (.inl steady) live
          | resumes resumes => exact ih (.inr ⟨_, _, resumes⟩) live
          | exhausted _ _ => exact .ok (.inl live)
          | unwinds _ _ => exact .ok (.inl live)
        · cases goesOn with
          | false => exact .ok (.inr ⟨past.unwound, f, v, past⟩)
          | true =>
            dsimp only
            rw [sessionLoop_over past fuel]
            exact .ok (.inr ⟨rfl, f, v, past⟩)

end Line

/-! ## Every nesting -/

instance live_openSession (receiver : Value) : Stays (Preserves Live) (openSession receiver) := by
  unfold openSession
  have pushed (scope : Scope) (label : String) : Stays (Preserves Live)
      (modify fun s => { s with stack := s.stack.push receiver scope label } : ShellM PUnit) :=
    .modify fun _ h => h.restack rfl
  have opened (f : Session) : Stays (Preserves Live) (ShellM.note f .opens) :=
    Live.stays_note f nofun
  infer_instance

theorem startSession_mayEnd {perform : Context → ShellM Reply}
    (bodies : ∀ rs, BodiesMayEnd rs perform) (answering : ∀ rs, BodiesEnd rs perform)
    (receiver : Value) (steady : Steady rs s) (live : Live s) :
    MayEnd rs (startSession perform receiver s) := by
  have opening := openSession_ends receiver steady
  have opens : Stays (Preserves Live) (openSession receiver) := inferInstance
  rw [startSession_apply]
  cases opened : openSession receiver s with
  | error e t => exact .error fun _ => opens.of_error opened live
  | ok g t =>
    obtain ⟨level, started, ready⟩ := opening.value opened
    have looped := sessionLoop_mayEnd (bodies _) (answering _) level lineFuel (.inl ready)
      (opens.of_ok opened live)
    have closed {u : State} (live : Live u) (result : Option Value) : Live (close g result u) :=
      (live.restack (u.stack.release_journal g)).note g _ nofun
    dsimp only
    cases done : sessionLoop perform g lineFuel t with
    | error e u => exact .error fun other => closed (looped.stop done other) none
    | ok w u =>
      rcases looped.value done with live | ⟨rfl, f, v, past⟩
      · exact .ok (.inl (closed live _))
      · exact .past (past.close level started)

instance : DeskClosed (Preserves fun s => Steady rs s ∧ Live s) where
  desk same h := ⟨h.1.desk same.commands, h.2.desk same.exhausted⟩

section Bodies

open Commands

variable {back : Reentry} {ctx : Context}

theorem startAttached_mayEnd
    (start : ∀ receiver s, Steady rs s → Live s → MayEnd rs (back.start receiver s))
    (receiver : Value) (steady : Steady rs s) (live : Live s) :
    MayEnd rs (startAttached back receiver s) := by
  unfold startAttached
  refine .get_bind ?_
  split
  · exact start receiver s steady live
  · exact MayEnd.of_stays inferInstance live

theorem runCd_mayEnd
    (start : ∀ receiver s, Steady rs s → Live s → MayEnd rs (back.start receiver s))
    (steady : Steady rs s) (live : Live s) : MayEnd rs (runCd back ctx s) := by
  have read : Stays (Preserves fun s => Steady rs s ∧ Live s) (ShellM.ofDesk trailingText) :=
    inferInstance
  unfold runCd
  refine Ends.bind ((Ends.of_stays read ⟨steady, live⟩).stops fun _ h => h.2) ?_
  intro text t ⟨steady, live⟩
  cases Destination.ofText text with
  | nowhere =>
    have told : Stays (Preserves Live) (do
        ShellM.ofDesk (DeskM.puts "Must provide an object.")
        return .skip : ShellM Reply) := inferInstance
    exact MayEnd.of_stays told live
  | up => exact .ok (.inl live)
  | bottom => exact .ok (.inl live)
  | object source =>
    have evaluated : Stays (Preserves fun s => Steady rs s ∧ Live s)
        (ShellM.ofDesk (DeskM.evaluate ctx.target source)) := inferInstance
    refine Ends.bind ((Ends.of_stays evaluated ⟨steady, live⟩).stops fun _ h => h.2) ?_
    intro receiver u ⟨steady, live⟩
    exact (startAttached_mayEnd start receiver steady live).bind (fun _ _ live => .ok (.inl live))
      fun _ _ _ _ past => .past past

theorem runNest_mayEnd
    (start : ∀ receiver s, Steady rs s → Live s → MayEnd rs (back.start receiver s))
    (steady : Steady rs s) (live : Live s) : MayEnd rs (runNest back ctx s) :=
  (startAttached_mayEnd start _ steady live).bind (fun _ _ live => .ok (.inl live))
    fun _ _ _ _ past => .past past

theorem runPydoc_mayEnd
    (run : ∀ line s, Steady rs s → Live s → MayEnd rs (back.run line s))
    (steady : Steady rs s) (live : Live s) : MayEnd rs (runPydoc back ctx s) := by
  unfold runPydoc
  refine .get_bind ?_
  exact (run _ s steady live).bind (fun _ _ live => .ok (.inl live)) fun _ _ _ _ past => .past past

theorem bodies_mayEnd
    (start : ∀ receiver s, Steady rs s → Live s → MayEnd rs (back.start receiver s))
    (run : ∀ line s, Steady rs s → Live s → MayEnd rs (back.run line s)) :
    BodiesMayEnd rs (bodies back) := by
  intro ctx s builtin steady live
  obtain ⟨b, known⟩ := builtin_of_mem builtin
  unfold bodies
  rw [known]
  dsimp only
  unfold runBuiltin
  split
  · exact runCd_mayEnd start steady live
  · exact runNest_mayEnd start steady live
  · exact runPydoc_mayEnd run steady live
  · exact .of_stays (stays_ofDesk_of _ (undisturbed_runAtDesk ctx b) DeskClosed.desk) live

end Bodies

theorem bodiesEnd_reentry (fuel : Nat) (rs : List Session) :
    BodiesEnd rs (Commands.bodies (reentry Commands.bodies fuel)) :=
  fun _ _ builtin steady =>
    runBuiltin_ends ((reentry_ends fuel).2 rs) ((reentry_ends fuel).1 rs) builtin steady

theorem reentry_mayEnd (fuel : Nat) :
    (∀ rs line s, Steady rs s → Live s →
      MayEnd rs ((reentry Commands.bodies fuel).run line s)) ∧
    ∀ rs receiver s, Steady rs s → Live s →
      MayEnd rs ((reentry Commands.bodies fuel).start receiver s) := by
  induction fuel with
  | zero =>
    exact ⟨fun _ _ _ _ live => .error fun _ => live, fun _ _ _ _ live => .error fun _ => live⟩
  | succ fuel ih =>
    have bodies (rs : List Session) :
        BodiesMayEnd rs (Commands.bodies (reentry Commands.bodies fuel)) :=
      bodies_mayEnd (ih.2 rs) (ih.1 rs)
    exact ⟨fun rs line _ steady live => line_mayEnd (bodies rs) line steady live,
      fun rs receiver _ steady live =>
        startSession_mayEnd bodies (bodiesEnd_reentry fuel) receiver steady live⟩

theorem perform_mayEnd (rs : List Session) : BodiesMayEnd rs Commands.perform :=
  bodies_mayEnd ((reentry_mayEnd nestingFuel).2 rs) ((reentry_mayEnd nestingFuel).1 rs)

/-! ## Runs -/

theorem closings_closes {lower above : List Session} {w : Session × Event × List Session}
    (h : w ∈ closings lower above) : w.2.1 = .closes (some .none) := by
  induction above generalizing lower with
  | nil => exact absurd h List.not_mem_nil
  | cons g above ih =>
    rcases List.mem_append.mp h with later | last
    · exact ih later
    · rw [List.mem_singleton.mp last]

theorem closings_silent {lower above : List Session} {post : List Entry}
    (closes : post.map Entry.what = closings lower above) : ∀ e ∈ post, e.event ≠ .ends := by
  intro e member ends
  have listed : e.what ∈ closings lower above := closes ▸ List.mem_map_of_mem member
  cases ends.symm.trans (closings_closes listed)

/-- Once a loop of a run has found its input ended, the run does nothing but return. -/
theorem run_over (unread : Fresh s) (builtin : s.desk.registry.commands = Commands.registry.commands)
    {e : Entry}
    (member : e ∈ (endState (run s)).stack.journal) (ends : e.event = .ends) :
    ∃ f v t, run s = .ok .none t ∧ Over f v [s.stack.base] t := by
  have steady : Steady [s.stack.base] s :=
    ⟨unread.sessions, builtin, by rw [unread.journal]; trivial⟩
  have live : Live s := ⟨unread.goesOn, by rw [unread.journal]; simp⟩
  have level : ([] : List Session).length = s.stack.base.level := unread.level.symm
  have looped := sessionLoop_mayEnd (perform_mayEnd _) (perform_ends _) level lineFuel
    (.inl steady) live
  change Ends (run s) _ _ _ at looped
  cases ran : run s with
  | error stop t =>
    rw [ran] at member
    have early : Live t := looped.stop ran trivial
    exact absurd ends (early.silent e member)
  | ok w t =>
    rw [ran] at member
    rcases looped.value ran with live | ⟨rfl, f, v, past⟩
    · exact absurd ends (live.silent e member)
    · exact ⟨f, v, t, rfl, past⟩

/-- The source was the last to be asked for a line and had none, no line was left to be replayed, and
since then only the prompt and an empty line were written. -/
structure TellsEnd (d : Desk) : Prop where
  inputs : d.source.inputs = []
  replay : d.replay = []
  asked : ∃ x earlier, d.source.exchanges = x :: earlier ∧ x.answer = none ∧
    d.printedFrom x.printed = (if d.source.showsPrompts then x.prompt else "") ++ "\n"

theorem Over.tellsEnd (h : Over f v rs s) : TellsEnd s.desk ∨ Unprompted s.stack.journal := by
  obtain ⟨above, n, post, -, journal, -⟩ := h.journal
  obtain ⟨u, read⟩ := h.found.read
  rcases readNext_ended read with vain | same
  · obtain ⟨x, earlier, before, exchanges, answer, length, output⟩ := vain.asked
    refine .inl ⟨?_, ?_, x, earlier, ?_, answer, ?_⟩
    · rw [h.source, vain.inputs]
    · rw [h.replay, vain.replay]
    · rw [h.source, exchanges]
    · unfold Desk.printedFrom
      rw [h.output, output, h.source, String.append_assoc, String.toList_append,
        List.drop_left' (by rw [String.length_toList, length]), String.ofList_toList]
  · refine .inr ⟨u.stack.journal, ⟨f, .asks, u.stack.sessions, u.desk.waiting⟩,
      ⟨f, .ends, v.stack.sessions, n⟩, post, ?_, rfl, rfl⟩
    rw [journal, same, Stack.note_journal, List.append_assoc, List.singleton_append]

/-- Once a loop of a run has found its input ended, nothing else happens but that all sessions are
closed without a value, from the top down to the lowest one. The run returns, however much fuel there
was left, and gives no value; no line is read, and nothing is written but one empty line. -/
theorem run_closes_all (unread : Fresh s)
    (builtin : s.desk.registry.commands = Commands.registry.commands) {pre post : List Entry}
    {e : Entry} (journal : (endState (run s)).stack.journal = pre ++ e :: post)
    (ends : e.event = .ends) :
    ∃ t nested, run s = .ok .none t ∧ t.stack.sessions = [s.stack.base] ∧
      e.sessions = s.stack.base :: nested ∧ e.sessions.getLast? = some e.session ∧
      post.map Entry.what = closings [s.stack.base] nested ∧
      (∃ u v, readNext u = .ok .ended v ∧ v.stack.journal = pre ∧
        t.desk.source = v.desk.source ∧ t.desk.replay = v.desk.replay ∧
        t.desk.machine.output = v.desk.machine.output ++ "\n") ∧
      (TellsEnd t.desk ∨ Unprompted t.stack.journal) := by
  obtain ⟨f, v, t, ran, past⟩ := run_over unread builtin
    (journal ▸ List.mem_append_right pre List.mem_cons_self) ends
  obtain ⟨nested, n, later, sessions, journal', closes⟩ := past.journal
  rw [ran] at journal
  change t.stack.journal = _ at journal
  -- no other entry tells of an end, so the two ways to split the journal are one
  obtain ⟨rfl, rfl, rfl⟩ : v.stack.journal = pre ∧ ⟨f, .ends, v.stack.sessions, n⟩ = e ∧
      later = post := by
    refine (List.append_cons_inj_of_notMem (fun member => ?_) fun member => ?_).mp
      (journal'.symm.trans journal)
    · exact past.found.silent e member ends
    · exact closings_silent closes e member ends
  obtain ⟨u, read⟩ := past.found.read
  exact ⟨t, nested, ran, past.sessions, sessions, past.found.top, closes,
    ⟨_, v, read, rfl, past.source, past.replay, past.output⟩, past.tellsEnd⟩

/-- A run whose input ends in the second of two sessions that were started. -/
theorem nested_run_closes_all : ∃ t f g pre e post,
    run (fresh ["cd 1", "!nest"]) = .ok .none t ∧
      t.stack.sessions = [(fresh ["cd 1", "!nest"]).stack.base] ∧
      t.stack.journal = pre ++ e :: post ∧ e.event = .ends ∧
      post.map Entry.what = [
        (g, .closes (some .none), [(fresh ["cd 1", "!nest"]).stack.base, f]),
        (f, .closes (some .none), [(fresh ["cd 1", "!nest"]).stack.base])] := by
  have facts : ((endState (run (fresh ["cd 1", "!nest"]))).stack.journal.any fun e =>
      e.event.endsLoop && e.sessions.length == 3) = true := by decide +kernel
  rw [List.any_eq_true] at facts
  obtain ⟨e, member, facts⟩ := facts
  rw [Bool.and_eq_true, beq_iff_eq] at facts
  have ends : e.event = .ends := by
    cases event : e.event <;> first | rfl | (rw [event] at facts; cases facts.1)
  obtain ⟨pre, post, journal⟩ := List.append_of_mem member
  obtain ⟨t, nested, ran, alone, sessions, -, closes, -⟩ :=
    run_closes_all (fresh_unread _) (fresh_commands _) journal ends
  obtain ⟨f, g, rfl⟩ := List.length_eq_two.mp (show nested.length = 2 by
    have count := facts.2
    rw [sessions, List.length_cons] at count
    omega)
  rw [ran] at journal
  exact ⟨t, f, g, pre, e, post, ran, alone, journal, ends, closes⟩

end NestShell.Shell

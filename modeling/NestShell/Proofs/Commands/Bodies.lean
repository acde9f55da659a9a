import NestShell.Proofs.Commands.Desk
import NestShell.Proofs.Shell.Body

/-!
# The bodies of the commands

Every body that a command can have is put together from the operations that bodies have, and none
of its work at the desk disturbs how the loops of the sessions stand. Only the body that clears what
waits gives up a text.
-/

namespace NestShell.Commands

open NestShell.Shell NestShell.Command DeskM

variable (back : Reentry) (ctx : Context)

/-! ## Built-in bodies -/

theorem built_startAttached (receiver : Code.Value) :
    Built Kept back (startAttached back receiver) := by
  unfold startAttached
  refine .bind .look fun s => ?_
  split
  · exact .start receiver
  · exact .desk _ inferInstance

theorem built_runCd : Built Kept back (runCd back ctx) := by
  unfold runCd
  refine .bind (.desk _ inferInstance) fun text => ?_
  split
  · exact .bind (.desk _ inferInstance) fun _ => .pure _
  · exact .pure _
  · exact .pure _
  · refine .bind (.desk _ inferInstance) fun receiver => ?_
    exact .bind (built_startAttached back receiver) fun _ => .pure _

theorem built_runNest : Built Kept back (runNest back ctx) :=
  .bind (built_startAttached back _) fun _ => .pure _

theorem built_runPydoc : Built Kept back (runPydoc back ctx) := by
  unfold runPydoc
  refine .bind .look fun s => ?_
  exact .bind (.run _) fun _ => .pure _

theorem built_runBuiltin {K : Desk → Desk → Prop} [Tolerant K] {b : Builtin}
    (atDesk : Stays K (runAtDesk ctx b)) : Built K back (runBuiltin back ctx b) := by
  have kept {p : ShellM Reply} (h : Built Kept back p) : Built K back p :=
    h.mono fun _ _ => Tolerant.kept
  unfold runBuiltin
  split
  · exact kept (built_runCd back ctx)
  · exact kept (built_runNest back ctx)
  · exact kept (built_runPydoc back ctx)
  · exact .desk _ atDesk

/-! ## Steps -/

instance kept_optionsShown (p : Options.Parsed) : Stays Kept (optionsShown p) := by
  unfold optionsShown
  infer_instance

instance kept_echo : Stays Kept (echo ctx) := by
  unfold echo
  infer_instance

instance kept_raiseNew {α : Type} (className : String) (args : List Code.Value) :
    Stays Kept (raiseNew className args : DeskM α) := by
  unfold raiseNew
  refine .bind inferInstance fun v => ?_
  cases v <;> infer_instance

instance kept_levelJson (v : Code.Value) : Stays Kept (levelJson v) := by
  unfold levelJson
  split <;> infer_instance

instance kept_signalJson (s : Signal) : Stays Kept (signalJson s) := by
  unfold signalJson
  split <;> infer_instance

instance kept_outcomeJson (o : Outcome) : Stays Kept (outcomeJson o) := by
  unfold outcomeJson
  split <;> infer_instance

instance kept_setStyle (name : String) : Stays Kept (setStyle name) := by
  unfold setStyle
  have changed (style : PromptStyle) :
      Stays Kept (modify fun d => { d with promptStyle := style } : DeskM PUnit) :=
    .modify fun _ => {}
  split <;> infer_instance

theorem built_runLines (lines : List String) : Built Kept back (runLines back lines) := by
  induction lines with
  | nil => exact .pure _
  | cons line rest ih =>
    exact .bind (.run line) fun outcome => .bind (.desk _ inferInstance) fun _ => ih

theorem built_releaseAt (index : Int) : Built Kept back (releaseAt index) := by
  unfold releaseAt
  refine .bind .look fun s => ?_
  split
  · exact .release _
  · exact .desk _ inferInstance

/-- The steps that read a line or have lines read again. -/
def readsLines : Step → Bool
  | .read _ | .replay _ => true
  | _ => false

theorem built_takeStep_kept {step : Step} (reads : readsLines step = false) :
    Built Kept back (takeStep back ctx step) := by
  unfold takeStep
  split
  · exact .pure _
  · exact .bind (.desk _ inferInstance) fun _ => .pure _
  · exact .pure _
  · exact .pure _
  · exact .pure _
  · exact .desk _ inferInstance
  · exact .bind (built_runLines back _) fun _ => .pure _
  · exact .bind (.desk _ inferInstance) fun _ => .pure _
  · cases reads
  · exact .bind (built_startAttached back _) fun _ => .pure _
  · exact .bind (built_releaseAt back _) fun _ => .pure _
  · exact .bind (.desk _ inferInstance) fun _ => .pure _
  · have changed : Stays Kept (modify fun d => { d with pager := !d.pager } : DeskM PUnit) :=
      .modify fun _ => {}
    exact .desk _ inferInstance
  · cases reads
  · exact .bind (.desk _ inferInstance) fun _ => .pure _

theorem built_takeStep (step : Step) : Built Reads back (takeStep back ctx step) := by
  cases reads : readsLines step with
  | false => exact (built_takeStep_kept back ctx reads).mono fun _ _ => Kept.toReads
  | true =>
    cases step with
    | read prompt =>
      exact .bind .look fun _ => .bind (.desk _ inferInstance) fun _ => .pure _
    | replay lines => exact .bind (.desk _ (reads_queue lines)) fun _ => .pure _
    | _ => cases reads

theorem built_takeSteps (steps : List Step) : Built Reads back (takeSteps back ctx steps) := by
  induction steps with
  | nil => exact .pure _
  | cons step rest ih =>
    refine .bind (built_takeStep back ctx step) fun reply => ?_
    cases reply with
    | none => exact ih
    | some reply => exact .pure _

/-- Whatever a command does, its body is built from the operations of bodies. -/
theorem built_bodies_reads (clears : ctx.command.body ≠ .builtin .clearBuffer) :
    Built Reads back (bodies back ctx) := by
  unfold bodies
  split
  · next b body => exact built_runBuiltin back ctx (reads_runAtDesk ctx fun same => clears (same ▸ body))
  · exact built_takeSteps back ctx _
  · exact .desk _ inferInstance

theorem built_bodies : Built Undisturbed back (bodies back ctx) := by
  by_cases clears : ctx.command.body = .builtin .clearBuffer
  · unfold bodies
    rw [clears]
    exact .desk _ (undisturbed_runAtDesk ctx .clearBuffer)
  · exact (built_bodies_reads back ctx clears).mono fun _ _ => Reads.toUndisturbed

end NestShell.Commands

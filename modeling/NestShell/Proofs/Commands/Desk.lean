import NestShell.Commands.Meaning
import NestShell.Proofs.Shell.Line

/-!
# What the commands at the desk leave alone

No command that works at the desk changes which commands there are, how the loops of the sessions
stand, or what waits to be evaluated, but for the one that clears it. Two of them read lines or have
lines read again. Three of them may leave sessions; the others never do.
-/

namespace NestShell.Shell

/-- The level down to which a reply leaves sessions, be it with a value that is a signal. -/
def Reply.target? : Reply → Option Code.Value
  | .signal (.breakout level _) | .value (.breakout level _) => some level
  | _ => none

def Reply.Remains (r : Reply) : Prop := r.target? = none

end NestShell.Shell

namespace NestShell.Commands

open NestShell.Shell DeskM

-- Each step of a program doubles what instance search counts as the size of its answer.
set_option synthInstance.maxSize 65536

variable {α : Type}

instance remains_nothing : Gives Reply.Remains (pure .nothing : DeskM Reply) := gives_pure rfl

instance remains_skip : Gives Reply.Remains (pure .skip : DeskM Reply) := gives_pure rfl

instance gives_throwValue (Q : α → Prop) (cls : Code.Value) (args : List Code.Value)
    (attrs : Code.Names) : Gives Q (ofRun (Code.Run.throwValue cls args attrs) : DeskM α) :=
  ⟨nofun⟩

instance gives_raise (Q : α → Prop) (className message : String) :
    Gives Q (raise className message : DeskM α) := ⟨nofun⟩

section Place

variable (ctx : Context)

/-! ## What commands have in common -/

instance kept_trailingText : Stays Kept trailingText := by
  unfold trailingText
  infer_instance

instance kept_evaluateTrailing : Stays Kept (evaluateTrailing ctx) := by
  unfold evaluateTrailing
  infer_instance

instance kept_scopeOf : Stays Kept (scopeOf ctx) := by
  unfold scopeOf
  split <;> infer_instance

instance kept_attributeOf (v : Code.Value) (name : String) : Stays Kept (attributeOf v name) := by
  unfold attributeOf
  infer_instance

instance kept_evaluateName (scope : Code.Scope) (name : String) :
    Stays Kept (evaluateName scope name) := by
  unfold evaluateName
  refine .tryCatch inferInstance fun e => ?_
  cases e <;> infer_instance

instance kept_methodObject (scope : Code.Scope) (name : Option String) :
    Stays Kept (methodObject ctx scope name) := by
  unfold methodObject
  split <;> infer_instance

instance kept_putsNoMethod (name : Option String) : Stays Kept (putsNoMethod name) := by
  unfold putsNoMethod
  infer_instance

instance kept_heading (v : Code.Value) (content : String) : Stays Kept (heading v content) := by
  unfold heading
  infer_instance

instance kept_showUnderHeading (v : Code.Value) (content shown : String) :
    Stays Kept (showUnderHeading ctx v content shown) := by
  unfold showUnderHeading
  infer_instance

instance kept_setFileLocals (scope : Code.Scope) (path : String) :
    Stays Kept (setFileLocals scope path) := by
  unfold setFileLocals
  infer_instance

/-! ## Commands about commands -/

instance kept_helpOn (name : String) : Stays Kept (helpOn name) := by
  unfold helpOn
  refine .bind inferInstance fun d => ?_
  split <;> infer_instance

instance kept_runHelp : Stays Kept (runHelp ctx) := by
  unfold runHelp
  split <;> infer_instance

instance remains_runHelp : Gives Reply.Remains (runHelp ctx) := by
  unfold runHelp
  split <;> infer_instance

/-- Aliases come and go; the commands stay. -/
instance kept_removeAlias (name : String) : Stays Kept (removeAlias name) := by
  unfold removeAlias
  refine .get_bind fun d => ?_
  by_cases known : d.registry.isAlias name
  · rw [if_pos known]
    have changed : Kept d { d with registry := d.registry.unalias name } := {}
    exact changed.trans ((kept_puts _).within _)
  · rw [if_neg known]
    exact (kept_putsError _).within d

theorem commands_alias? {r t : Registry} {name canonical : String}
    (h : r.alias? name canonical = some t) : t.commands = r.commands := by
  unfold Registry.alias? at h
  dsimp only at h
  split at h
  · cases h
  · split at h <;> cases h <;> rfl

instance kept_addAlias (name target : String) : Stays Kept (addAlias name target) := by
  unfold addAlias
  refine .get_bind fun d => ?_
  cases made : d.registry.alias? name target with
  | none => exact (kept_putsError _).within d
  | some r =>
    have changed : Kept d { d with registry := r } := { commands := commands_alias? made }
    exact changed.trans ((kept_puts _).within _)

instance kept_listAliases : Stays Kept listAliases := by
  unfold listAliases
  refine .bind inferInstance fun d => ?_
  split <;> infer_instance

instance kept_runAlias : Stays Kept (runAlias ctx) := by
  unfold runAlias
  split <;> infer_instance

instance remains_runAlias : Gives Reply.Remains (runAlias ctx) := by
  unfold runAlias
  split <;> infer_instance

/-! ## What was entered -/

theorem undisturbed_runClearBuffer : Stays Undisturbed runClearBuffer := by
  have cleared : Stays Undisturbed (modify fun d => { d with pending := [] } : DeskM PUnit) :=
    .modify fun _ => { pending := .inr rfl }
  have told : Stays Reads (do puts "Input buffer cleared!"; return .nothing : DeskM Reply) :=
    inferInstance
  exact .bind cleared fun _ => told.undisturbed

instance remains_runClearBuffer : Gives Reply.Remains runClearBuffer := by
  unfold runClearBuffer
  infer_instance

instance kept_throwTooLong (digits : Nat) : Stays Kept (throwTooLong digits : DeskM α) := by
  unfold throwTooLong
  infer_instance

instance reads_queue (lines : List String) :
    Stays Reads (modify fun d => { d with replay := d.replay ++ lines } : DeskM PUnit) :=
  .modify fun _ => {}

instance reads_replayRange (text : String) : Stays Reads (replayRange ctx text) := by
  unfold replayRange
  split
  · infer_instance
  · infer_instance
  · infer_instance
  · refine .bind inferInstance fun d => ?_
    split <;> infer_instance

instance remains_replayRange (text : String) : Gives Reply.Remains (replayRange ctx text) := by
  unfold replayRange throwTooLong
  split
  · infer_instance
  · infer_instance
  · infer_instance
  · refine .bind fun d => ?_
    split <;> infer_instance

instance reads_runHist : Stays Reads (runHist ctx) := by
  unfold runHist
  infer_instance

instance remains_runHist : Gives Reply.Remains (runHist ctx) := by
  unfold runHist
  infer_instance

theorem select_length_le {α : Type} (r : History.Range) (xs : List α) :
    (r.select xs).length ≤ xs.length := by
  unfold History.Range.select
  dsimp only
  rw [List.length_drop, List.length_take]
  omega

theorem replayable_length_le (history : Option History) (line : String) {limit : Nat}
    (within : ∀ h, history = some h → h.entries.length ≤ limit) :
    (replayable history line).length ≤ limit := by
  unfold replayable
  split
  · exact Nat.zero_le _
  · next h =>
    have most := within h rfl
    split
    · rw [List.length_dropLast]
      omega
    · exact most

/-- What is asked for by a number or a range that can be read. -/
theorem runHist_selects {text : String} {range : History.Range} {d : Desk} {selected : List String}
    (given : ctx.options.isGiven "replay" = true) (asks : ctx.options.text? "replay" = some text)
    (read : History.Range.read text = .ok (some range))
    (selects : range.select (replayable d.history ctx.line) = selected) :
    runHist ctx d =
      if selected.isEmpty then
        (do putsError ("no history in range " ++ text); return .skip : DeskM Reply) d
      else .ok .nothing { d with replay := d.replay ++ selected } := by
  unfold runHist replayRange
  rw [if_pos given, asks, Option.getD_some, read]
  dsimp only
  rw [bind_apply, get_apply]
  dsimp only
  rw [selects]
  cases selected <;> rfl

section Queue

variable (d : Desk) {limit : Nat} (within : ∀ h, d.history = some h → h.entries.length ≤ limit)
include within

/-- Lines are added after those that are to be replayed already, and nothing else changes. -/
theorem replayRange_queues (text : String) : ∃ lines,
    Kept { d with replay := d.replay ++ lines } (endState (replayRange ctx text d)) ∧
      lines.length ≤ limit := by
  have none {p : DeskM Reply} (kept : Stays Kept p) : ∃ lines,
      Kept { d with replay := d.replay ++ lines } (endState (p d)) ∧ lines.length ≤ limit := by
    refine ⟨[], ?_, Nat.zero_le _⟩
    rw [List.append_nil]
    exact kept.within d
  unfold replayRange
  cases History.Range.read text with
  | error fault => cases fault <;> exact none inferInstance
  | ok range =>
    cases range with
    | none => exact none inferInstance
    | some range =>
      dsimp only
      rw [bind_apply, get_apply]
      dsimp only
      have fewer := Nat.le_trans (select_length_le range (replayable d.history ctx.line))
        (replayable_length_le _ _ within)
      cases selects : range.select (replayable d.history ctx.line) with
      | nil => exact none inferInstance
      | cons line lines => exact ⟨line :: lines, {}, selects ▸ fewer⟩

theorem runHist_queues : ∃ lines,
    Kept { d with replay := d.replay ++ lines } (endState (runHist ctx d)) ∧
      lines.length ≤ limit := by
  unfold runHist
  split
  · exact replayRange_queues ctx d within _
  · refine ⟨[], ?_, Nat.zero_le _⟩
    rw [List.append_nil]
    exact (inferInstance : Stays Kept _).within d

end Queue

/-! ## Reports -/

instance kept_runCat : Stays Kept (runCat ctx) := by
  unfold runCat
  infer_instance

instance remains_runCat : Gives Reply.Remains (runCat ctx) := by
  unfold runCat
  infer_instance

instance kept_titleOf (v : Code.Value) (asked : Option String) : Stays Kept (titleOf v asked) := by
  unfold titleOf
  refine .bind inferInstance fun found => ?_
  split <;> infer_instance

instance kept_describeFunction (asked : Option String) (v : Code.Value) (path : Option String) :
    Stays Kept (describeFunction asked v path) := by
  unfold describeFunction
  infer_instance

instance kept_runStat : Stays Kept (runStat ctx) := by
  unfold runStat
  refine .bind inferInstance fun scope => .bind inferInstance fun v => .bind inferInstance
    fun callable => ?_
  dsimp only
  split
  · infer_instance
  · refine .bind inferInstance fun origin => ?_
    split <;> infer_instance

instance remains_runStat : Gives Reply.Remains (runStat ctx) := by
  unfold runStat
  refine .bind fun scope => .bind fun v => .bind fun callable => ?_
  dsimp only
  split
  · infer_instance
  · refine .bind fun origin => ?_
    split <;> infer_instance

instance kept_linesOfFile (file : String) : Stays Kept (linesOfFile file) := by
  unfold linesOfFile
  refine .bind inferInstance fun known => ?_
  split
  · infer_instance
  · refine .bind inferInstance fun d => ?_
    split <;> infer_instance

instance kept_showContextLine (line : Int) (row : Int × String) :
    Stays Kept (showContextLine line row) := by
  unfold showContextLine
  infer_instance

instance kept_showPlace (scope : Code.Scope) (file : String) (line : Nat) (around : Int) :
    Stays Kept (showPlace scope file line around) := by
  unfold showPlace
  refine .bind inferInstance fun found => ?_
  split <;> infer_instance

instance remains_showPlace (scope : Code.Scope) (file : String) (line : Nat) (around : Int) :
    Gives Reply.Remains (showPlace scope file line around) := by
  unfold showPlace
  refine .bind fun found => ?_
  split <;> infer_instance

instance kept_noPlace : Stays Kept runWhereami.noPlace := by
  unfold runWhereami.noPlace
  infer_instance

instance remains_noPlace : Gives Reply.Remains runWhereami.noPlace := by
  unfold runWhereami.noPlace
  infer_instance

instance kept_runWhereami : Stays Kept (runWhereami ctx) := by
  unfold runWhereami
  dsimp only
  split <;> infer_instance

instance remains_runWhereami : Gives Reply.Remains (runWhereami ctx) := by
  unfold runWhereami
  dsimp only
  split <;> infer_instance

instance kept_runStatus : Stays Kept (runStatus ctx) := by
  unfold runStatus
  infer_instance

instance remains_runStatus : Gives Reply.Remains (runStatus ctx) := by
  unfold runStatus
  infer_instance

instance kept_runVersion : Stays Kept runVersion := by
  unfold runVersion
  infer_instance

instance remains_runVersion : Gives Reply.Remains runVersion := by
  unfold runVersion
  infer_instance

/-! ## Lists -/

instance kept_sectionText (title : String) (items : List String) :
    Stays Kept (sectionText title items) := by
  unfold sectionText
  infer_instance

instance kept_absentText (title reason : String) : Stays Kept (absentText title reason) := by
  unfold absentText
  infer_instance

instance kept_tableVariables (sel : Selection) (t : Code.Names) (names : List String) :
    Stays Kept (tableVariables sel t names) := by
  unfold tableVariables Commands.variableTexts
  infer_instance

instance kept_sectionOf (sel : Selection) (scope : Code.Scope) (s : Section) :
    Stays Kept (sectionOf sel scope s) := by
  cases s <;> unfold sectionOf <;> infer_instance

instance kept_listScope (pattern : Pattern) : Stays Kept (listScope ctx pattern) := by
  unfold listScope
  infer_instance

instance kept_runLs : Stays Kept (runLs ctx) := by
  unfold runLs
  refine .bind inferInstance fun text => ?_
  dsimp only
  split
  · infer_instance
  · split <;> infer_instance

instance remains_runLs : Gives Reply.Remains (runLs ctx) := by
  unfold runLs
  refine .bind fun text => ?_
  dsimp only
  split
  · infer_instance
  · split <;> infer_instance

/-! ## Sources -/

theorem kept_withMethod {go : Code.Value → DeskM Reply} (h : ∀ v, Stays Kept (go v)) :
    Stays Kept (withMethod ctx go) := by
  unfold withMethod
  refine .bind inferInstance fun scope => .bind inferInstance fun v => ?_
  cases v <;> infer_instance

theorem remains_withMethod {go : Code.Value → DeskM Reply} (h : ∀ v, Gives Reply.Remains (go v)) :
    Gives Reply.Remains (withMethod ctx go) := by
  unfold withMethod
  refine .bind fun scope => .bind fun v => ?_
  cases v <;> infer_instance

theorem kept_withSource (v : Code.Value) {go : String → Nat → DeskM Reply}
    (h : ∀ text first, Stays Kept (go text first)) : Stays Kept (withSource v go) := by
  unfold withSource
  refine .bind inferInstance fun found => ?_
  split <;> infer_instance

theorem remains_withSource (v : Code.Value) {go : String → Nat → DeskM Reply}
    (h : ∀ text first, Gives Reply.Remains (go text first)) :
    Gives Reply.Remains (withSource v go) := by
  unfold withSource
  refine .bind fun found => ?_
  split <;> infer_instance

instance kept_shownSource (text : String) (first : Nat) :
    Stays Kept (shownSource ctx text first) := by
  unfold shownSource
  infer_instance

instance kept_runShowSource : Stays Kept (runShowSource ctx) :=
  kept_withMethod ctx fun v => kept_withSource v inferInstance

instance remains_runShowSource : Gives Reply.Remains (runShowSource ctx) :=
  remains_withMethod ctx fun v => remains_withSource v inferInstance

instance kept_runShowDoc : Stays Kept (runShowDoc ctx) := kept_withMethod ctx inferInstance

instance remains_runShowDoc : Gives Reply.Remains (runShowDoc ctx) :=
  remains_withMethod ctx inferInstance

instance kept_runShowCommand : Stays Kept (runShowCommand ctx) := by
  unfold runShowCommand
  split
  · infer_instance
  · refine .bind inferInstance fun d => ?_
    split
    · infer_instance
    · refine .bind inferInstance fun found => ?_
      split <;> infer_instance

instance remains_runShowCommand : Gives Reply.Remains (runShowCommand ctx) := by
  unfold runShowCommand
  split
  · infer_instance
  · refine .bind fun d => ?_
    split
    · infer_instance
    · refine .bind fun found => ?_
      split <;> infer_instance

instance kept_publish (v : Code.Value) (text : String) : Stays Kept (publish ctx v text) := by
  unfold publish
  refine .bind inferInstance fun title => .bind inferInstance fun _ => .bind inferInstance fun d => ?_
  split <;> infer_instance

instance remains_publish (v : Code.Value) (text : String) :
    Gives Reply.Remains (publish ctx v text) := by
  unfold publish
  refine .bind fun title => .bind fun _ => .bind fun d => ?_
  split <;> infer_instance

instance kept_runGistSource : Stays Kept (runGistSource ctx) :=
  kept_withMethod ctx fun v => kept_withSource v inferInstance

instance remains_runGistSource : Gives Reply.Remains (runGistSource ctx) :=
  remains_withMethod ctx fun v => remains_withSource v inferInstance

/-! ## Files -/

instance kept_putsUnreadable (path : String) (f : Files.ReadFault) :
    Stays Kept (putsUnreadable path f) := by
  unfold putsUnreadable
  split <;> infer_instance

instance remains_putsUnreadable (path : String) (f : Files.ReadFault) :
    Gives Reply.Remains (putsUnreadable path f) := by
  unfold putsUnreadable
  split <;> infer_instance

instance kept_showFile (path : String) (start stop : Int) :
    Stays Kept (showFile ctx path start stop) := by
  unfold showFile
  refine .bind inferInstance fun d => ?_
  split <;> infer_instance

instance remains_showFile (path : String) (start stop : Int) :
    Gives Reply.Remains (showFile ctx path start stop) := by
  unfold showFile
  refine .bind fun d => ?_
  split <;> infer_instance

instance kept_runCatFile : Stays Kept (runCatFile ctx) := by
  unfold runCatFile
  split
  · infer_instance
  · refine .bind inferInstance fun d => .bind inferInstance fun start => ?_
    split
    · infer_instance
    · refine .bind inferInstance fun stop => ?_
      split <;> infer_instance

instance remains_runCatFile : Gives Reply.Remains (runCatFile ctx) := by
  unfold runCatFile
  split
  · infer_instance
  · refine .bind fun d => .bind fun start => ?_
    split
    · infer_instance
    · refine .bind fun stop => ?_
      split <;> infer_instance

instance kept_evaluateFile (path source : String) : Stays Kept (evaluateFile ctx path source) := by
  unfold evaluateFile
  infer_instance

instance remains_evaluateFile (path source : String) :
    Gives Reply.Remains (evaluateFile ctx path source) := by
  unfold evaluateFile
  infer_instance

instance kept_runEvalFile : Stays Kept (runEvalFile ctx) := by
  unfold runEvalFile
  split
  · infer_instance
  · refine .bind inferInstance fun d => ?_
    dsimp only
    split <;> infer_instance

instance remains_runEvalFile : Gives Reply.Remains (runEvalFile ctx) := by
  unfold runEvalFile
  split
  · infer_instance
  · refine .bind fun d => ?_
    dsimp only
    split <;> infer_instance

/-! ## The system -/

instance kept_throwNoProgram (name : String) : Stays Kept (throwNoProgram name : DeskM α) := by
  unfold throwNoProgram
  infer_instance

instance kept_systemCommand (line : String) : Stays Kept (systemCommand line) := by
  unfold systemCommand
  refine .bind inferInstance fun d => ?_
  split
  · infer_instance
  · refine .bind inferInstance fun _ => ?_
    split <;> infer_instance

instance kept_changeDirectory (text : String) : Stays Kept (changeDirectory text) := by
  unfold changeDirectory
  refine .get_bind fun d => ?_
  generalize Files.Path.expand d.homes (if text.isEmpty then "~" else text) = path
  by_cases null : Text.containsChar '\x00' path
  · rw [if_pos null]
    exact (kept_raise _ _).within d
  · rw [if_neg null]
    cases d.files.enter path with
    | ok files => exact {}
    | error f => exact (kept_putsError _).within d

instance kept_runShellEscape : Stays Kept runShellEscape := by
  unfold runShellEscape
  refine .bind inferInstance fun d => ?_
  dsimp only
  split
  · infer_instance
  · infer_instance

instance remains_runShellEscape : Gives Reply.Remains runShellEscape := by
  unfold runShellEscape
  refine .bind fun d => ?_
  dsimp only
  split
  · infer_instance
  · infer_instance

instance kept_runPipInstall : Stays Kept (runPipInstall ctx) := by
  unfold runPipInstall
  infer_instance

instance remains_runPipInstall : Gives Reply.Remains (runPipInstall ctx) := by
  unfold runPipInstall
  infer_instance

instance kept_enterKnown (path : String) : Stays Kept (modify (enterKnown path) : DeskM PUnit) := by
  refine .modify fun d => ?_
  unfold enterKnown
  split <;> exact {}

instance kept_runPkgCd : Stays Kept (runPkgCd ctx) := by
  unfold runPkgCd
  split
  · infer_instance
  · refine .bind inferInstance fun d => ?_
    split <;> infer_instance

instance remains_runPkgCd : Gives Reply.Remains (runPkgCd ctx) := by
  unfold runPkgCd
  split
  · infer_instance
  · refine .bind fun d => ?_
    split <;> infer_instance

/-! ## The game and the looks -/

section Game

variable {K : Desk → Desk → Prop} [Tolerant K] [∀ depth prompt, Stays K (readLine depth prompt)]

instance stays_guess (depth : Nat) (secret : Int) (fuel attempts : Nat) :
    Stays K (guess depth secret fuel attempts) := by
  induction fuel generalizing attempts with
  | zero => exact stays_throw _
  | succ fuel ih =>
    unfold guess
    refine .bind inferInstance fun read => ?_
    split
    · infer_instance
    · infer_instance
    · split <;> infer_instance

instance stays_runGame : Stays K (runGame ctx) := by
  unfold runGame play
  split
  · infer_instance
  · split <;> infer_instance

end Game

instance remains_guess (depth : Nat) (secret : Int) (fuel attempts : Nat) :
    Gives Reply.Remains (guess depth secret fuel attempts) := by
  induction fuel generalizing attempts with
  | zero => exact gives_throw _
  | succ fuel ih =>
    unfold guess
    refine .bind fun read => ?_
    split
    · infer_instance
    · infer_instance
    · split <;> infer_instance

instance remains_runGame : Gives Reply.Remains (runGame ctx) := by
  unfold runGame play
  split
  · infer_instance
  · split <;> infer_instance

instance kept_toggleStyle (style : PromptStyle) : Stays Kept (toggleStyle style) := by
  unfold toggleStyle
  have changed : Stays Kept (modify fun d =>
      { d with promptStyle := if d.promptStyle == style then .standard else style } : DeskM PUnit) :=
    .modify fun _ => {}
  infer_instance

instance remains_toggleStyle (style : PromptStyle) : Gives Reply.Remains (toggleStyle style) := by
  unfold toggleStyle
  infer_instance

instance kept_runToggleColor : Stays Kept runToggleColor := by
  unfold runToggleColor
  have changed : Stays Kept (modify fun d => { d with color := !d.color } : DeskM PUnit) :=
    .modify fun _ => {}
  infer_instance

instance remains_runToggleColor : Gives Reply.Remains runToggleColor := by
  unfold runToggleColor
  infer_instance

/-! ## Levels -/

instance kept_runNesting : Stays Kept (runNesting ctx) := by
  unfold runNesting
  infer_instance

instance remains_runNesting : Gives Reply.Remains (runNesting ctx) := by
  unfold runNesting
  infer_instance

instance kept_runJumpTo : Stays Kept (runJumpTo ctx) := by
  unfold runJumpTo
  dsimp only
  split
  · infer_instance
  · split <;> infer_instance

instance kept_runExit : Stays Kept (runExit ctx) := by
  unfold runExit
  infer_instance

instance kept_runExitAll : Stays Kept (runExitAll ctx) := by
  unfold runExitAll
  infer_instance

instance kept_runExitProgram : Stays Kept (runExitProgram ctx) := by
  unfold runExitProgram endProgram
  split
  · infer_instance
  · split <;> infer_instance

instance remains_runExitProgram : Gives Reply.Remains (runExitProgram ctx) := by
  unfold runExitProgram endProgram
  split
  · infer_instance
  · split <;> infer_instance

/-- The commands at the desk that read lines or have lines read again. -/
def mayRead : Command.Builtin → Bool
  | .hist | .game => true
  | _ => false

/-- Most commands at the desk leave alone what the loops keep there. -/
theorem kept_runAtDesk {b : Command.Builtin} (reads : mayRead b = false)
    (clears : b ≠ .clearBuffer) : Stays Kept (runAtDesk ctx b) := by
  cases b with
  | clearBuffer => exact absurd rfl clears
  | hist => cases reads
  | game => cases reads
  | _ => unfold runAtDesk; infer_instance

/-- What commands at the desk keep is settled by the three that clear texts, replay lines and read
lines. -/
theorem stays_runAtDesk {K : Desk → Desk → Prop} [Tolerant K]
    [∀ depth prompt, Stays K (readLine depth prompt)] {b : Command.Builtin}
    (clears : Stays K (modify fun d => { d with pending := [] } : DeskM PUnit))
    (replays : b = .hist → Stays K (runHist ctx)) : Stays K (runAtDesk ctx b) := by
  by_cases clear : b = .clearBuffer
  · subst clear
    unfold runAtDesk runClearBuffer
    infer_instance
  · cases reads : mayRead b with
    | false => exact (kept_runAtDesk ctx reads clear).mono fun _ _ => Tolerant.kept
    | true =>
      cases b with
      | hist => exact replays rfl
      | game => exact stays_runGame ctx
      | _ => cases reads

/-- All but one leave alone the texts that wait. -/
theorem reads_runAtDesk {b : Command.Builtin} (clears : b ≠ .clearBuffer) :
    Stays Reads (runAtDesk ctx b) := by
  cases reads : mayRead b with
  | false => exact (kept_runAtDesk ctx reads clears).mono fun _ _ => Kept.toReads
  | true => cases b <;> first | (cases reads; done) | (unfold runAtDesk; infer_instance)

theorem undisturbed_runAtDesk (b : Command.Builtin) : Stays Undisturbed (runAtDesk ctx b) := by
  by_cases clears : b = .clearBuffer
  · rw [clears]
    exact undisturbed_runClearBuffer
  · exact (reads_runAtDesk ctx clears).undisturbed

/-- The commands at the desk that may leave sessions. -/
def mayLeave : Command.Builtin → Bool
  | .exit | .exitAll | .jumpTo => true
  | _ => false

theorem remains_runAtDesk {b : Command.Builtin} (other : mayLeave b = false) :
    Gives Reply.Remains (runAtDesk ctx b) := by
  cases b <;> first | (cases other; done) | (unfold runAtDesk; infer_instance)

end Place

end NestShell.Commands

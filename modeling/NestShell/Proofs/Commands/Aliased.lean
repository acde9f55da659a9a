import NestShell.Proofs.Command.Naming
import NestShell.Proofs.Shell.Admission
import NestShell.Proofs.Text.Arguments

/-!
# A command called by an alias

A line that begins with an alias goes to the same command as the line that begins with the command's
own name, with the same text behind the word. A body learns of the word only through the whole line.
So the two lines come to the same unless the body looks at the line, which of the built-in bodies
only the one for the history does.
-/

namespace NestShell.Commands

open NestShell.Shell NestShell.Command

/-- Steps that are given the line: one shows it, another hands on all that a body knows. -/
def getsLine : Step → Bool
  | .echo | .call _ => true
  | _ => false

/-- Bodies that are given the line. -/
def looksAtLine : Body → Bool
  | .builtin .hist => true
  | .builtin _ | .absent => false
  | .steps ss => ss.any getsLine

variable (back : Reentry) (ctx : Context) (line : String)

theorem args_line : Context.args { ctx with line := line } = ctx.args := rfl

theorem optionValue_line (name : String) :
    optionValue { ctx with line := line } name = optionValue ctx name := rfl

theorem showFile_line : showFile { ctx with line := line } = showFile ctx := rfl

theorem runCatFile_line : runCatFile { ctx with line := line } = runCatFile ctx := by
  unfold runCatFile
  rw [args_line]
  simp only [optionValue_line, showFile_line]

theorem evaluateFile_line : evaluateFile { ctx with line := line } = evaluateFile ctx := rfl

theorem runEvalFile_line : runEvalFile { ctx with line := line } = runEvalFile ctx := by
  unfold runEvalFile
  rw [args_line, evaluateFile_line]

-- Only the bodies that read files take too long to be compared as they are.
theorem runBuiltin_line {b : Builtin} (other : b ≠ .hist) :
    runBuiltin back { ctx with line := line } b = runBuiltin back ctx b := by
  cases b with
  | hist => exact absurd rfl other
  | catFile => exact congrArg ShellM.ofDesk (runCatFile_line ctx line)
  | evalFile => exact congrArg ShellM.ofDesk (runEvalFile_line ctx line)
  | _ => rfl

theorem takeStep_line {step : Step} (blind : getsLine step = false) :
    takeStep back { ctx with line := line } step = takeStep back ctx step := by
  cases step with
  | echo => cases blind
  | call => cases blind
  | _ => rfl

theorem takeSteps_line {steps : List Step} (blind : steps.any getsLine = false) :
    takeSteps back { ctx with line := line } steps = takeSteps back ctx steps := by
  induction steps with
  | nil => rfl
  | cons step steps ih =>
    obtain ⟨first, later⟩ := Bool.or_eq_false_iff.mp blind
    unfold takeSteps
    rw [takeStep_line back ctx line first, ih later]

/-- A body that is not given the line does the same for every line. -/
theorem bodies_line (blind : looksAtLine ctx.command.body = false) :
    bodies back { ctx with line := line } = bodies back ctx := by
  unfold bodies
  dsimp only
  cases body : ctx.command.body with
  | builtin b =>
    refine runBuiltin_line back ctx line fun hist => ?_
    rw [body, hist] at blind
    cases blind
  | steps ss =>
    rw [body] at blind
    exact takeSteps_line back ctx line blind
  | absent => rfl

end NestShell.Commands

namespace NestShell.Shell

open NestShell.Text

/-- The body of a command does the same whatever line called it. -/
def Heedless (perform : Context → ShellM Reply) (c : Command) : Prop :=
  ∀ ctx line, ctx.command = c → perform { ctx with line := line } = perform ctx

section

variable {perform : Context → ShellM Reply} {c : Command} {s : State}

/-- Lines with one command and one text behind the word come to the same. -/
theorem dispatchWith_line (heedless : Heedless perform c) {first second word word' rest : String}
    (found : s.desk.registry.match? first = some ⟨c, word, rest⟩)
    (found' : s.desk.registry.match? second = some ⟨c, word', rest⟩) :
    dispatchWith perform first s = dispatchWith perform second s := by
  have body (options : Options.Parsed) :
      runBody perform ⟨c, first, options, s.stack.top.scope, s.stack⟩ rest =
        runBody perform ⟨c, second, options, s.stack.top.scope, s.stack⟩ rest := by
    unfold runBody performIn
    rw [heedless ⟨c, second, options, s.stack.top.scope, s.stack⟩ first rfl]
  rw [dispatchWith_apply, dispatchWith_apply, found, found']
  dsimp only
  cases readOptions c rest with
  | error reason => rfl
  | ok options =>
    dsimp only
    rw [body options]

end

variable {s : State} {a n : String}

/-- After any calls, an alias that no command has for a name stands for a command. A line of the
alias and a text comes to the same, in every state, as the line of the command's name and the text:
with whatever meaning of bodies, as long as the command's body does not look at the line, and so for
the commands that are not given the line. -/
theorem alias_dispatches_alike {calls : List Registry.Call}
    (reached : (Registry.History.run calls).registry = s.desk.registry)
    (free : s.desk.registry.hasCommand a = false)
    (stands : s.desk.registry.aliases.lookup a = some n) (aWord : IsWord a) (nWord : IsWord n) :
    ∃ c, s.desk.registry.find? n = some c ∧
      (∀ perform, Heedless perform c → ∀ t,
        dispatchWith perform (a ++ " " ++ t) s = dispatchWith perform (n ++ " " ++ t) s) ∧
      (Commands.looksAtLine c.body = false → ∀ t,
        dispatch (a ++ " " ++ t) s = dispatch (n ++ " " ++ t) s) := by
  have grounded : s.desk.registry.Grounded := reached ▸ Registry.Grounded.run calls
  have known : s.desk.registry.hasCommand n = true :=
    grounded.targets _ (Table.mem_of_lookup stands)
  obtain ⟨c, named⟩ := Option.isSome_iff_exists.mp known
  have canonical : s.desk.registry.canonical? a = some n := by
    rw [Registry.canonical?, if_neg (by simp [free]), stands, Option.filter_some, if_pos known]
  have own : s.desk.registry.lookup n = some c := by
    rw [Registry.lookup, Registry.canonical?_of_hasCommand known, Option.filter_some,
      if_pos (by simpa using nWord.1)]
    exact named
  have means : s.desk.registry.lookup a = some c :=
    (Registry.lookup_of_canonical canonical known).trans own
  have goes {w : String} (word : IsWord w) (meant : s.desk.registry.lookup w = some c)
      (t : String) : s.desk.registry.match? (w ++ " " ++ t) = some ⟨c, w, trim t⟩ := by
    have first := congrArg Prod.fst (word.splitFirst_trim t)
    have found := Registry.match?_of_lookup first word.1 meant
    rwa [word.splitFirst_trim t] at found
  have alike (perform : Context → ShellM Reply) (heedless : Heedless perform c) (t : String) :
      dispatchWith perform (a ++ " " ++ t) s = dispatchWith perform (n ++ " " ++ t) s :=
    dispatchWith_line heedless (goes aWord means t) (goes nWord own t)
  refine ⟨c, named, alike, fun blind t => alike Commands.perform ?_ t⟩
  rintro ctx line rfl
  exact Commands.bodies_line _ ctx line blind

/-- A command that runs a line and then evaluates the text behind its word, with an alias. -/
def telling : List Registry.Call := [
  .register { name := "say", aliases := ["tell"], body := .steps [.run ["say 1"], .evaluate] }]

/-- A shell with that command alone. -/
def teller : State :=
  { fresh [] with desk := { (fresh []).desk with
      registry := (Registry.History.run telling).registry } }

theorem tell_is_say : ∃ c, teller.desk.registry.find? "say" = some c ∧
    Commands.looksAtLine c.body = false ∧
      ∀ t, dispatch ("tell" ++ " " ++ t) teller = dispatch ("say" ++ " " ++ t) teller := by
  have free : teller.desk.registry.hasCommand "tell" = false := by decide +kernel
  have stands : teller.desk.registry.aliases.lookup "tell" = some "say" := by decide +kernel
  have words : IsWord "tell" ∧ IsWord "say" := by decide +kernel
  have blind : (teller.desk.registry.find? "say").map (fun c => Commands.looksAtLine c.body) =
      some false := by decide +kernel
  obtain ⟨c, named, -, alike⟩ := alias_dispatches_alike rfl free stands words.1 words.2
  rw [named, Option.map_some, Option.some.injEq] at blind
  exact ⟨c, named, blind, alike blind⟩

end NestShell.Shell

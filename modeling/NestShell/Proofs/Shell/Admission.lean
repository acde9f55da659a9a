import NestShell.Proofs.Shell.Fresh
import NestShell.Proofs.Shell.Loop

/-!
# Which lines run a body

A line is given to the body of its command once it is matched, split, read, and found to ask for no
help. Up to there nothing has happened in the shell, so a line that is refused on the way leaves all
as it was, but for the usage of a command that was asked for it. A line that is given to a body is
given to it once, and what the body comes to is all that counts from then on.
-/

namespace NestShell.Shell

open NestShell.Text

/-- The tokens of the text after a command's word: its words, or where it cannot be split and the
command has no flags, what stands between its blanks. -/
inductive Splits (m : Registry.Match) : List String → Prop where
  | words : Words.isFault (Words.split m.remainder) = false → Splits m (Words.split m.remainder)
  | blanks : Words.isFault (Words.split m.remainder) = true →
      m.command.options.isEmpty = true → Splits m (Text.words m.remainder)

/-- In the state a body runs for the line: a command matches it, the text after the command's word
is split into tokens, the command reads them, and none of them asks for help. -/
structure State.Admits (s : State) (line : String) (m : Registry.Match) (tokens : List String)
    (options : Options.Parsed) : Prop where
  found : s.desk.registry.match? line = some m
  splits : Splits m tokens
  read : Options.parse m.command.options tokens = .ok options
  noHelp : options.helpRequested = false

/-- A text as whole lines. -/
def wholeLines (text : String) : String := if endsWith text "\n" then text else text ++ "\n"

/-- In the state no body runs for the line: what it leads to instead, and what is printed. -/
inductive State.Refuses (s : State) (line : String) : Outcome → String → Prop where
  | unmatched : s.desk.registry.match? line = none →
      Refuses s line (.noSuchCommand (trimEndOf ['\r', '\n'] line)) ""
  | unsplit {m : Registry.Match} {reason : String} : s.desk.registry.match? line = some m →
      tokensOf m.command m.remainder = .error reason →
      Refuses s line (.parseFailure reason m.command.name) ""
  | unread {m : Registry.Match} {tokens : List String} {f : Options.Fault} :
      s.desk.registry.match? line = some m → Splits m tokens →
      Options.parse m.command.options tokens = .error f →
      Refuses s line (.parseFailure f.message m.command.name) ""
  | help {m : Registry.Match} {tokens : List String} {options : Options.Parsed} :
      s.desk.registry.match? line = some m → Splits m tokens →
      Options.parse m.command.options tokens = .ok options → options.helpRequested = true →
      Refuses s line (.handled .skip) (wholeLines m.command.usageText)

/-- The desk after a text was printed. -/
def Desk.printed (d : Desk) (text : String) : Desk :=
  { d with machine := { d.machine with output := d.machine.output ++ text } }

/-- The state after a text was printed. -/
def State.printed (s : State) (text : String) : State := { s with desk := s.desk.printed text }

/-- What a line comes to whose command's body came to `result`. -/
def concluded (c : Command) : EStateM.Result Stop State Reply → EStateM.Result Stop State Outcome
  | .ok reply t => .ok (.handled (reply.toSignal c.keepsValue)) (cleared t)
  | .error e t => match recover c e t with
    | .ok signal u => .ok (.handled signal) (cleared u)
    | .error e u => .error e (cleared u)

/-! ## Tokens -/

section Tokens

variable {m : Registry.Match} {tokens : List String}

theorem tokensOf_eq_ok : tokensOf m.command m.remainder = .ok tokens ↔ Splits m tokens := by
  unfold tokensOf
  dsimp only
  constructor
  · intro read
    split at read
    · next whole =>
      cases read
      exact .words (by simpa using whole)
    · next fault =>
      split at read
      · next flagless =>
        cases read
        exact .blanks (by simpa using fault) flagless
      · split at read <;> cases read
  · intro splits
    cases splits with
    | words whole => rw [if_pos (by simp [whole])]
    | blanks fault flagless => rw [if_neg (by simp [fault]), if_pos flagless]

/-- Tokens are read by the command's schema. -/
theorem readOptions_of_splits (splits : Splits m tokens) :
    readOptions m.command m.remainder =
      (Options.parse m.command.options tokens).mapError Options.Fault.message := by
  unfold readOptions
  rw [tokensOf_eq_ok.mpr splits]
  cases read : Options.parse m.command.options tokens with
  | ok options =>
    simp only [bind, Except.bind, read]
    rfl
  | error fault =>
    simp only [bind, Except.bind, read]
    rfl

theorem readOptions_of_unsplit {reason : String}
    (unsplit : tokensOf m.command m.remainder = .error reason) :
    readOptions m.command m.remainder = .error reason := by
  unfold readOptions
  rw [unsplit]
  rfl

/-- A command without flags is not asked for help. -/
theorem isEmpty_eq_false_of_help {schema : Options.Schema} {token : String}
    (help : token ∈ schema.helpTokens) : schema.isEmpty = false := by
  apply Bool.eq_false_iff.mpr
  intro flagless
  have none_ : schema.flags = [] := List.isEmpty_iff.mp flagless
  simp [Options.Schema.helpTokens, none_] at help

/-- A token that asks for help is heeded wherever it stands. -/
theorem parse_of_help {schema : Options.Schema} {token : String} (among : token ∈ tokens)
    (help : token ∈ schema.helpTokens) :
    ∃ options, Options.parse schema tokens = .ok options ∧ options.helpRequested = true := by
  have asks : tokens.any schema.helpTokens.contains = true :=
    List.any_eq_true.mpr ⟨token, among, by simpa using help⟩
  unfold Options.parse
  dsimp only
  rw [isEmpty_eq_false_of_help help, if_neg Bool.false_ne_true, if_pos asks]
  exact ⟨_, rfl, rfl⟩

end Tokens

/-! ## Lines -/

section Lines

variable {s : State} {line : String}

/-- A line is given to a body or refused. -/
theorem State.admits_or_refuses (s : State) (line : String) :
    (∃ m tokens options, s.Admits line m tokens options) ∨ ∃ o text, s.Refuses line o text := by
  cases found : s.desk.registry.match? line with
  | none => exact .inr ⟨_, _, .unmatched found⟩
  | some m =>
    cases split_ : tokensOf m.command m.remainder with
    | error reason => exact .inr ⟨_, _, .unsplit found split_⟩
    | ok tokens =>
      have splits := tokensOf_eq_ok.mp split_
      cases read : Options.parse m.command.options tokens with
      | error f => exact .inr ⟨_, _, .unread found splits read⟩
      | ok options =>
        by_cases help : options.helpRequested = true
        · exact .inr ⟨_, _, .help found splits read help⟩
        · exact .inl ⟨m, tokens, options, found, splits, read, Bool.eq_false_iff.mpr help⟩

theorem puts_apply (text : String) (d : Desk) :
    DeskM.puts text d = .ok .unit (d.printed (wholeLines text)) := rfl

theorem State.printed_nothing (s : State) : s.printed "" = s := by
  unfold State.printed Desk.printed
  rw [String.append_empty]

/-- A line that is refused leaves all as it was, but for what is printed. -/
theorem dispatchWith_refused {o : Outcome} {text : String} (refuses : s.Refuses line o text)
    (perform : Context → ShellM Reply) : dispatchWith perform line s = .ok o (s.printed text) := by
  rw [dispatchWith_apply]
  cases refuses with
  | unmatched found => rw [found, s.printed_nothing]
  | unsplit found split_ =>
    rw [found, s.printed_nothing]
    dsimp only
    rw [readOptions_of_unsplit split_]
  | unread found splits read =>
    rw [found, s.printed_nothing]
    dsimp only
    rw [readOptions_of_splits splits, read]
    rfl
  | help found splits read help =>
    rw [found]
    dsimp only
    rw [readOptions_of_splits splits, read]
    dsimp only [Except.mapError]
    rw [if_pos help, bind_apply, ofDesk_apply, puts_apply]
    rfl

/-- A line that is given to a body comes to what the body comes to, in the state in which it began
with the rest of the line as its text. -/
theorem dispatchWith_admitted {m : Registry.Match} {tokens : List String}
    {options : Options.Parsed} (admits : s.Admits line m tokens options)
    (perform : Context → ShellM Reply) :
    let ctx : Context := ⟨m.command, line, options, s.stack.top.scope, s.stack⟩
    dispatchWith perform line s =
      concluded m.command (perform ctx (entered s ctx m.remainder)) := by
  intro ctx
  have read : readOptions m.command m.remainder = .ok options := by
    rw [readOptions_of_splits admits.splits, admits.read]
    rfl
  rw [dispatchWith_body perform admits.found read admits.noHelp]
  rw [performIn_apply]
  cases perform ctx (entered s ctx m.remainder) with
  | ok reply t => rfl
  | error e t =>
    cases recovered : recover m.command e t with
    | ok signal u => simp only [concluded, recovered]
    | error stop u => simp only [concluded, recovered]

/-- What a line that is given to a body comes to depends on the body. -/
theorem dispatchWith_ne_of_admits {m : Registry.Match} {tokens : List String}
    {options : Options.Parsed} (admits : s.Admits line m tokens options) :
    dispatchWith (fun _ => throw .awaiting) line s ≠
      dispatchWith (fun _ => throw .outOfFuel) line s := by
  rw [dispatchWith_admitted admits, dispatchWith_admitted admits]
  intro same
  cases same

theorem State.Admits.not_refuses {m : Registry.Match} {tokens : List String}
    {options : Options.Parsed} (admits : s.Admits line m tokens options) (o : Outcome)
    (text : String) : ¬ s.Refuses line o text := by
  intro refuses
  apply dispatchWith_ne_of_admits admits
  rw [dispatchWith_refused refuses, dispatchWith_refused refuses]

/-- No body runs beside a token that asks for help. Unless the text cannot be split, the usage of
the command is printed. -/
theorem State.refuses_of_help {m : Registry.Match} {token : String}
    (found : s.desk.registry.match? line = some m) (among : token ∈ Words.split m.remainder)
    (help : token ∈ m.command.options.helpTokens) :
    ∃ o text, s.Refuses line o text ∧ (Words.isFault (Words.split m.remainder) = false →
      o = .handled .skip ∧ text = wholeLines m.command.usageText) := by
  by_cases fault : Words.isFault (Words.split m.remainder) = true
  · cases split_ : tokensOf m.command m.remainder with
    | error reason =>
      exact ⟨_, _, .unsplit found split_, fun whole => absurd (fault.symm.trans whole) (by simp)⟩
    | ok tokens =>
      have flags := isEmpty_eq_false_of_help help
      cases tokensOf_eq_ok.mp split_ with
      | words whole => exact absurd (fault.symm.trans whole) (by simp)
      | blanks _ flagless => exact absurd (flags.symm.trans flagless) (by simp)
  · obtain ⟨options, read, asked⟩ := parse_of_help among help
    exact ⟨_, _, .help found (.words (Bool.eq_false_iff.mpr fault)) read asked,
      fun _ => ⟨rfl, rfl⟩⟩

/-- What a line comes to is what one body comes to, once, exactly if the line is matched, split and
read and asks for no help; every other line is refused and leaves all as it was, but for the usage
that it asked for. A token that asks for help is such a request wherever it stands. -/
theorem body_runs_iff_admitted (s : State) (line : String) :
    (∀ m tokens options, s.Admits line m tokens options → ∀ perform,
      let ctx : Context := ⟨m.command, line, options, s.stack.top.scope, s.stack⟩
      dispatchWith perform line s =
        concluded m.command (perform ctx (entered s ctx m.remainder))) ∧
    ((∃ perform perform', dispatchWith perform line s ≠ dispatchWith perform' line s) ↔
      ∃ m tokens options, s.Admits line m tokens options) ∧
    ((∀ m tokens options, ¬ s.Admits line m tokens options) → ∃ o text, s.Refuses line o text ∧
      ∀ perform, dispatchWith perform line s = .ok o (s.printed text)) ∧
    ∀ m, s.desk.registry.match? line = some m →
      (∃ token ∈ Words.split m.remainder, token ∈ m.command.options.helpTokens) →
      (∀ n tokens options, ¬ s.Admits line n tokens options) ∧
      (Words.isFault (Words.split m.remainder) = false → ∀ perform,
        dispatchWith perform line s =
          .ok (.handled .skip) (s.printed (wholeLines m.command.usageText))) := by
  refine ⟨fun m tokens options admits perform => dispatchWith_admitted admits perform, ?_, ?_, ?_⟩
  · constructor
    · rintro ⟨perform, perform', differ⟩
      rcases s.admits_or_refuses line with admitted | ⟨o, text, refuses⟩
      · exact admitted
      · rw [dispatchWith_refused refuses, dispatchWith_refused refuses] at differ
        exact absurd rfl differ
    · rintro ⟨m, tokens, options, admits⟩
      exact ⟨_, _, dispatchWith_ne_of_admits admits⟩
  · intro bodiless
    rcases s.admits_or_refuses line with ⟨m, tokens, options, admits⟩ | ⟨o, text, refuses⟩
    · exact absurd admits (bodiless m tokens options)
    · exact ⟨o, text, refuses, dispatchWith_refused refuses⟩
  · rintro m found ⟨token, among, help⟩
    obtain ⟨o, text, refuses, usage⟩ := State.refuses_of_help found among help
    refine ⟨fun n tokens options admits => admits.not_refuses o text refuses, ?_⟩
    intro whole perform
    obtain ⟨rfl, rfl⟩ := usage whole
    exact dispatchWith_refused refuses perform

end Lines

/-- An open quote is no fault to a command without flags, and a request for help is heeded as the
value of a flag and behind a flag that there is not. -/
theorem quoted_line_admitted :
    (∃ perform perform', dispatchWith perform "help it's" (fresh []) ≠
      dispatchWith perform' "help it's" (fresh [])) ∧
    ∀ perform, dispatchWith perform "alias --all -d -h" (fresh []) =
      .ok (.handled .skip) ((fresh []).printed (wholeLines Commands.aliasing.usageText)) := by
  constructor
  · have found : (fresh []).desk.registry.match? "help it's" =
        some ⟨Commands.help, "help", "it's"⟩ := rfl
    have splits : Splits ⟨Commands.help, "help", "it's"⟩ (Text.words "it's") :=
      .blanks (by decide +kernel) rfl
    obtain ⟨-, depends, -⟩ := body_runs_iff_admitted (fresh []) "help it's"
    exact depends.mpr ⟨_, _, _, found, splits, rfl, rfl⟩
  · have found : (fresh []).desk.registry.match? "alias --all -d -h" =
        some ⟨Commands.aliasing, "alias", "--all -d -h"⟩ := rfl
    obtain ⟨-, -, -, heeded⟩ := body_runs_iff_admitted (fresh []) "alias --all -d -h"
    obtain ⟨-, usage⟩ := heeded _ found ⟨"-h", by decide +kernel, by decide +kernel⟩
    exact usage (by decide +kernel)

end NestShell.Shell

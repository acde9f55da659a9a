import NestShell.Program.Startup
import NestShell.Proofs.Files.Tree
import NestShell.Proofs.Shell.Containment

/-!
# The startup script

The lines of the script are handled in order, each in the state that the line before it left. A line
that does nothing by itself is passed over, unless a text waits for more: then it belongs to that
text. Failing lines do not keep the later ones from being handled, and the status of the last of
them is the script's. Three things keep the first prompt from being reached: a file whose bytes are
no text, a path with a NUL character, and a line that stops the shell.
-/

namespace NestShell.Program

open NestShell.Code NestShell.Text NestShell.Shell NestShell.Files

/-- In the state a line of the script is passed over. -/
def passesOver (s : State) (line : String) : Bool := isIdle line && s.desk.pending.isEmpty

/-- The lines lead from one state to another. Those that are handled are listed with the status that
each of them left. -/
inductive Performs : State → List String → List (String × Nat) → State → Prop where
  | done (s : State) : Performs s [] [] s
  | pass {s t : State} {line : String} {rest : List String} {handled : List (String × Nat)} :
      passesOver s line = true → Performs s rest handled t → Performs s (line :: rest) handled t
  | handle {s u t : State} {line : String} {signal : Option Signal} {rest : List String}
      {handled : List (String × Nat)} :
      passesOver s line = false → handleLine line s = .ok signal u → Performs u rest handled t →
      Performs s (line :: rest) ((line, u.desk.status) :: handled) t

/-- The line stops the shell after those before it. -/
inductive StopsAt (s : State) (front : List String) (line : String) (e : Stop) (t : State) :
    Prop where
  | after {handled : List (String × Nat)} {u : State} :
      Performs s front handled u → passesOver u line = false → handleLine line u = .error e t →
      Escapes Commands.perform u line e → StopsAt s front line e t

/-- The status of the last line that failed, or else one from before. -/
def lastFailure (status : Nat) (handled : List (String × Nat)) : Nat :=
  ((handled.map Prod.snd).filter (· != 0)).getLastD status

/-- The state in which no text waits. -/
def abandoned (s : State) : State := { s with desk := { s.desk with pending := [] } }

theorem lastFailure_cons (status n : Nat) (line : String) (handled : List (String × Nat)) :
    lastFailure status ((line, n) :: handled) =
      lastFailure (if n == 0 then status else n) handled := by
  unfold lastFailure
  by_cases fails : n = 0
  · simp [fails]
  · rw [List.map_cons, List.filter_cons_of_pos (by simpa using fails), List.getLastD_cons,
      if_neg (by simpa using fails)]

theorem lastFailure_ne_zero (status : Nat) (handled : List (String × Nat)) :
    lastFailure status handled ≠ 0 ↔ status ≠ 0 ∨ ∃ entry ∈ handled, entry.2 ≠ 0 := by
  induction handled generalizing status with
  | nil => simp [lastFailure]
  | cons entry rest ih =>
    obtain ⟨line, n⟩ := entry
    rw [lastFailure_cons, ih]
    by_cases fails : n = 0 <;> simp [fails]

/-! ## Lines -/

section Lines

variable {status n : Nat} {line : String} {rest lines : List String} {s t : State} {e : Stop}

theorem runScript_nil : runScript status [] s = .ok status (abandoned s) := rfl

theorem runScript_pass (passes : passesOver s line = true) :
    runScript status (line :: rest) s = runScript status rest s := by
  have goesOn : (isIdle line && !!s.desk.pending.isEmpty) = true := by
    rw [Bool.not_not]
    exact passes
  rw [runScript, bind_apply, get_apply]
  dsimp only
  rw [if_pos goesOn]

theorem runScript_handle (counts : passesOver s line = false) :
    runScript status (line :: rest) s = match handleLine line s with
      | .ok _ u => runScript (if u.desk.status == 0 then status else u.desk.status) rest u
      | .error e u => .error e u := by
  have handled : ¬ (isIdle line && !!s.desk.pending.isEmpty) = true := by
    rw [Bool.not_not]
    exact Bool.eq_false_iff.mp counts
  rw [runScript, bind_apply, get_apply]
  dsimp only
  rw [if_neg handled, bind_apply]
  cases handleLine line s <;> rfl

/-! ### The first line -/

theorem performs_pass {handled : List (String × Nat)} (passes : passesOver s line = true) :
    Performs s (line :: rest) handled t ↔ Performs s rest handled t := by
  constructor
  · intro performs
    cases performs with
    | pass _ performs => exact performs
    | handle counts => exact absurd (passes.symm.trans counts) (by simp)
  · exact .pass passes

theorem performs_handle {handled : List (String × Nat)} (counts : passesOver s line = false) :
    Performs s (line :: rest) handled t ↔ ∃ signal u later, handleLine line s = .ok signal u ∧
      handled = (line, u.desk.status) :: later ∧ Performs u rest later t := by
  constructor
  · intro performs
    cases performs with
    | pass passes => exact absurd (passes.symm.trans counts) (by simp)
    | handle _ ran performs => exact ⟨_, _, _, ran, rfl, performs⟩
  · rintro ⟨signal, u, later, ran, rfl, performs⟩
    exact .handle counts ran performs

/-- One of the lines stops the shell. -/
def Stops (s : State) (lines : List String) (e : Stop) (t : State) : Prop :=
  ∃ front line rest, lines = front ++ line :: rest ∧ StopsAt s front line e t

theorem not_stops_nil : ¬ Stops s [] e t := by
  rintro ⟨front, line, rest, whole, -⟩
  simp at whole

theorem stops_pass (passes : passesOver s line = true) :
    Stops s (line :: rest) e t ↔ Stops s rest e t := by
  constructor
  · rintro ⟨front, last, behind, whole, ⟨performs, counts, stops, escapes⟩⟩
    cases front with
    | nil =>
      obtain ⟨rfl, rfl⟩ := List.cons.inj whole
      cases performs
      exact absurd (passes.symm.trans counts) (by simp)
    | cons first front =>
      obtain ⟨rfl, rfl⟩ := List.cons.inj whole
      exact ⟨front, last, behind, rfl,
        .after ((performs_pass passes).mp performs) counts stops escapes⟩
  · rintro ⟨front, last, behind, rfl, ⟨performs, counts, stops, escapes⟩⟩
    exact ⟨line :: front, last, behind, rfl,
      .after (.pass passes performs) counts stops escapes⟩

theorem stops_handle (counts : passesOver s line = false) :
    Stops s (line :: rest) e t ↔ handleLine line s = .error e t ∨
      ∃ signal u, handleLine line s = .ok signal u ∧ Stops u rest e t := by
  constructor
  · rintro ⟨front, last, behind, whole, ⟨performs, counts', stops, escapes⟩⟩
    cases front with
    | nil =>
      obtain ⟨rfl, rfl⟩ := List.cons.inj whole
      cases performs
      exact .inl stops
    | cons first front =>
      obtain ⟨rfl, rfl⟩ := List.cons.inj whole
      obtain ⟨signal, u, later, ran, -, performs⟩ := (performs_handle counts).mp performs
      exact .inr ⟨signal, u, ran, front, last, behind, rfl, .after performs counts' stops escapes⟩
  · rintro (stopped | ⟨signal, u, ran, front, last, behind, rfl, performs, counts', stops, escapes⟩)
    · exact ⟨[], line, rest, rfl, .after (.done s) counts stopped (escapes_of_handle stopped)⟩
    · exact ⟨line :: front, last, behind, rfl,
        .after (.handle counts ran performs) counts' stops escapes⟩

/-! ### All lines -/

/-- A script comes to its end just if all its lines are handled or passed over. -/
theorem runScript_ok : runScript status lines s = .ok n t ↔
    ∃ handled u, Performs s lines handled u ∧ n = lastFailure status handled ∧ t = abandoned u := by
  induction lines generalizing status s with
  | nil =>
    rw [runScript_nil]
    constructor
    · rintro ⟨rfl, rfl⟩
      exact ⟨[], s, .done s, rfl, rfl⟩
    · rintro ⟨handled, u, performs, rfl, rfl⟩
      cases performs
      rfl
  | cons line rest ih =>
    cases passes : passesOver s line with
    | true =>
      rw [runScript_pass passes, ih]
      simp only [performs_pass passes]
    | false =>
      rw [runScript_handle passes]
      simp only [performs_handle passes]
      cases ran : handleLine line s with
      | error e u => simp
      | ok signal u =>
        dsimp only
        rw [ih]
        constructor
        · rintro ⟨later, v, performs, same, ends⟩
          exact ⟨_, v, ⟨signal, u, later, rfl, rfl, performs⟩,
            same.trans (lastFailure_cons ..).symm, ends⟩
        · rintro ⟨_, v, ⟨_, _, later, ⟨⟩, rfl, performs⟩, same, ends⟩
          exact ⟨later, v, performs, same.trans (lastFailure_cons ..), ends⟩

/-- A script stops just where one of its lines stops the shell. -/
theorem runScript_error : runScript status lines s = .error e t ↔ Stops s lines e t := by
  induction lines generalizing status s with
  | nil =>
    constructor
    · intro stopped
      cases stopped
    · exact fun stops => absurd stops not_stops_nil
  | cons line rest ih =>
    cases passes : passesOver s line with
    | true => rw [runScript_pass passes, stops_pass passes, ih]
    | false =>
      rw [runScript_handle passes, stops_handle passes]
      cases handleLine line s with
      | error f u => simp
      | ok signal u =>
        dsimp only
        rw [ih]
        constructor
        · exact fun stops => .inr ⟨signal, u, rfl, stops⟩
        · rintro (stopped | ⟨_, _, ⟨⟩, stops⟩)
          · cases stopped
          · exact stops

end Lines

/-! ## Files -/

section Files

variable {s : State} {path : String}

theorem runScriptFile_apply : runScriptFile path s = match s.desk.files.readText path with
    | .ok text => runScript 0 (lines text) s
    | .error (.failure _) => .ok 1 s
    | .error f => ShellM.ofDesk (raiseUnreadable f) s := by
  unfold runScriptFile
  rw [bind_apply, get_apply]
  dsimp only
  cases s.desk.files.readText path with
  | ok text => rfl
  | error f => cases f <;> rfl

/-- The exception for bytes that are no text is of no class that ends or interrupts a program. -/
theorem raiseUnreadable_undecodable (f : Utf8.Fault) (s : State) :
    ∃ x t, ShellM.ofDesk (raiseUnreadable (.undecodable f)) s =
        (.error (.raised x) t : EStateM.Result Stop State Nat) ∧ t.stack = s.stack ∧
      ∀ name, t.desk.machine.isOf x name =
        ((lineage "UnicodeDecodeError").map .type).any (Value.type name).same :=
  ⟨_, _, rfl, rfl, fun name => Machine.isOf_newest rfl rfl name⟩

/-- After a script that has come to its end the session is run as it is without one. -/
theorem runSession_performed {settings : Settings} {n : Nat} {t : State}
    (startup : settings.noStartup = false)
    (file : s.desk.files.isFile settings.startupFile = true)
    (ran : runScriptFile settings.startupFile s = .ok n t) :
    runSession settings s = runSession { settings with noStartup := true } t := by
  unfold runSession ShellM.catching
  rw [tryCatch_apply, tryCatch_apply, bind_apply, get_apply]
  dsimp only
  rw [startup, file, Bool.not_false, Bool.and_true, if_pos rfl, bind_apply, bind_apply, ran]
  rfl

end Files

/-- A file that can be read is handled line by line, to its end or to a line that stops the shell;
its status is that of the last line that failed, and no text waits after it. Where the file cannot
be read nothing is done and the status tells it. Bytes that are no text stop the shell. After a
script that has come to its end the session is run as it is without one. -/
theorem script_performed (s : State) {path : String} (named : containsChar '\x00' path = false) :
    (∀ f, s.desk.files.read path = .error f → runScriptFile path s = .ok 1 s) ∧
    (∀ bytes text, s.desk.files.read path = .ok bytes → Utf8.decode bytes = .ok text →
      let script := lines (universalNewlines text)
      (∀ n t, runScriptFile path s = .ok n t ↔ ∃ handled u, Performs s script handled u ∧
        n = lastFailure 0 handled ∧ t = abandoned u ∧
        (n ≠ 0 ↔ ∃ entry ∈ handled, entry.2 ≠ 0)) ∧
      ∀ e t, runScriptFile path s = .error e t ↔
        ∃ front line rest, script = front ++ line :: rest ∧ StopsAt s front line e t) ∧
    (∀ bytes f, s.desk.files.read path = .ok bytes → Utf8.decode bytes = .error f →
      ∃ x t, runScriptFile path s = .error (.raised x) t ∧ t.stack = s.stack ∧
        t.desk.machine.isOf x "UnicodeDecodeError" = true) ∧
    ∀ settings : Settings, settings.noStartup = false → settings.startupFile = path →
      s.desk.files.isFile path = true → ∀ n t, runScriptFile path s = .ok n t →
      runSession settings s = runSession { settings with noStartup := true } t := by
  refine ⟨?_, ?_, ?_, ?_⟩
  · intro f missing
    rw [runScriptFile_apply, Files.Tree.readText, if_neg (by simp [named]), missing]
  · intro bytes text held decodes script
    have read : runScriptFile path s = runScript 0 script s := by
      rw [runScriptFile_apply, Files.Tree.readText_of_decode named held decodes]
    rw [read]
    refine ⟨fun n t => ?_, fun e t => runScript_error⟩
    rw [runScript_ok]
    constructor
    · rintro ⟨handled, u, performs, rfl, ends⟩
      refine ⟨handled, u, performs, rfl, ends, ?_⟩
      simpa using lastFailure_ne_zero 0 handled
    · rintro ⟨handled, u, performs, same, ends, -⟩
      exact ⟨handled, u, performs, same, ends⟩
  · intro bytes f held faulty
    obtain ⟨x, t, raised, same, classes⟩ := raiseUnreadable_undecodable f s
    refine ⟨x, t, ?_, same, ?_⟩
    · rw [runScriptFile_apply, Files.Tree.readText_of_fault named held faulty]
      exact raised
    · rw [classes]
      decide +kernel
  · rintro settings startup rfl file n t ran
    exact runSession_performed startup file ran

/-- A shell beside one file. -/
def besideFile (name : String) (bytes : List UInt8) : State :=
  let s := fresh []
  { s with desk := { s.desk with files := { nodes := [([name], .file bytes)] } } }

/-- A comment is passed over, and a line that fails gives its status. -/
theorem failing_script_performed :
    ∃ t, runScriptFile "rc" (besideFile "rc" (Utf8.encode "# note\nalias 'x\n")) = .ok 1 t ∧
      t.desk.pending = [] := by
  let s := besideFile "rc" (Utf8.encode "# note\nalias 'x\n")
  have read : lines (universalNewlines "# note\nalias 'x\n") = ["# note", "alias 'x"] := by
    decide +kernel
  have refuses : s.begun.Refuses "alias 'x" _ "" :=
    .unsplit (m := ⟨Commands.aliasing, "alias", "'x"⟩) rfl rfl
  have ran : handleLine "alias 'x" s = .ok none _ := handle_refused refuses
  obtain ⟨-, performed, -⟩ := @script_performed s "rc" (by decide)
  obtain ⟨ends, -⟩ := performed _ _ rfl (Utf8.decode_encode _)
  rw [read] at ends
  exact ⟨_, (ends 1 _).mpr ⟨_, _, .pass rfl (.handle rfl ran (.done _)), rfl, rfl, by simp⟩, rfl⟩

/-- Only exceptions that end the program or interrupt a line stop a script. -/
def Sheltered : Prop :=
  ∀ (s : State) (path : String) (x : Nat) (t : State), containsChar '\x00' path = false →
    runScriptFile path s = .error (.raised x) t →
    t.desk.machine.isOf x "SystemExit" = true ∨ t.desk.machine.isOf x "KeyboardInterrupt" = true

/-- The exception of bytes that are no text does, too. -/
theorem undecodable_script_not_sheltered : ¬ Sheltered := by
  intro sheltered
  let s := besideFile "rc" [0xFF]
  have named : containsChar '\x00' "rc" = false := by decide
  have faulty : s.desk.files.readText "rc" = .error (.undecodable _) :=
    Tree.readText_of_fault named rfl rfl
  obtain ⟨x, t, raised, -, classes⟩ := raiseUnreadable_undecodable _ s
  have stopped : runScriptFile "rc" s = .error (.raised x) t := by
    rw [runScriptFile_apply, faulty]
    exact raised
  have other := sheltered s "rc" x t named stopped
  rw [classes, classes] at other
  revert other
  decide +kernel

end NestShell.Program

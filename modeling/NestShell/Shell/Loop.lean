import NestShell.Shell.Handle
/-!
The loop of a session: it reads lines and handles them until its session is left or the input ends.
A body may start a session of its own, whose loop then runs inside the body; it leaves the stack
without that session, however it ends. Fuel bounds the lines that a loop reads and how deep loops
are nested.
-/
namespace NestShell.Shell

open NestShell.Code NestShell.Text

/-! ## Reading -/

/-- What stands between the brackets of the standard prompt. -/
def sessionLabel (f : Session) : DeskM String :=
  if f.scope.toplevel then return "main" else DeskM.viewClip f.receiver

def promptText : ShellM String := do
  let s ← get
  let open_ := !s.desk.pending.isEmpty || !s.desk.continuation.isEmpty
  match s.desk.promptStyle with
  | .simple => return if open_ then " | " else ">> "
  | .shell => return if open_ then "* " else "burrow " ++ s.desk.files.working ++ " $ "
  | .standard =>
    let label ← ShellM.ofDesk (sessionLabel s.stack.top)
    return "burrow(" ++ label ++ "):" ++ toString s.stack.top.level ++ (if open_ then "* " else "> ")

/-- A line for the loop: the next one to be replayed, which is shown, or else one of the source. -/
def nextLine (prompt : String) : ShellM String := do
  let s ← get
  ShellM.note s.stack.top (.prompts prompt)
  ShellM.ofDesk do
    match s.desk.replay with
    | line :: rest =>
      modify fun d => { d with replay := rest }
      DeskM.puts (prompt ++ line)
      return line
    | [] => DeskM.request s.stack.depth prompt

/-- What reading leads to. -/
inductive Reading where
  | line (s : String)
  | ended
  | interrupted

def readNext : ShellM Reading :=
  let reading : ShellM Reading := do return .line (← nextLine (← promptText))
  ShellM.catching "KeyboardInterrupt"
    (ShellM.catching "EOFError" reading fun _ => return .ended) fun _ => return .interrupted

/-- Takes a line; gives the text that it completes, unless it ends in a backslash. -/
def joinLine (d : Desk) (line : String) : Desk × Option String :=
  let stripped := trimEnd line
  if endsWith stripped "\\" then
    ({ d with continuation := d.continuation ++ [String.ofList stripped.toList.dropLast] }, none)
  else if d.continuation.isEmpty then (d, some line)
  else
    ({ d with continuation := [] }, some (" ".intercalate (d.continuation ++ [stripped])))

def recordLine (line : String) (d : Desk) : Desk :=
  match d.history with
  | none => d
  | some h =>
    let (h, files) := h.record d.files line
    { d with history := some h, files := files }

/-- Forgets the lines of a text that is not complete. -/
def resetBuffers : ShellM Unit :=
  ShellM.modifyDesk fun d => { d with continuation := [], pending := [] }

/-- Handles a line that the user may interrupt. -/
def handleInterruptible (perform : Context → ShellM Reply) (line : String) :
    ShellM (Option (Option Signal)) :=
  ShellM.catching "KeyboardInterrupt" (do return some (← handle perform line)) fun _ => do
    resetBuffers
    ShellM.ofDesk (DeskM.puts "^C")
    return none

/-- Whether a signal leaves sessions down to a level. -/
def leavesTo (level : Nat) : Option Signal → Bool
  | some (.breakout l _) => Stack.levelOf? l == some (level : Int)
  | _ => false

/-- Takes a line that a loop has read; gives the text that is to be handled, if there is one now. A
blank text counts only where others wait. -/
def takeLine (session : Session) (line : String) : ShellM (Option String) := do
  let s ← get
  ShellM.modifyDesk fun d => (joinLine d line).1
  ShellM.note session (.takes line)
  match (joinLine s.desk line).2 with
  | none => return none
  | some text =>
    if isAllBlank text && s.desk.pending.isEmpty then return none
    else
      ShellM.modifyDesk (recordLine text)
      ShellM.note session (.submits text)
      return some text

/-- Handles a text that the user may interrupt; tells whether the loop goes on. -/
def handleText (perform : Context → ShellM Reply) (session : Session) (text : String) :
    ShellM Bool := do
  match ← handleInterruptible perform text with
  | none =>
    ShellM.note session .interrupted
    return true
  | some signal =>
    let after ← get
    return after.stack.contains session && !leavesTo session.level signal

/-- Handles what a loop has read; tells whether the loop goes on. -/
def stepLoop (perform : Context → ShellM Reply) (session : Session) : Reading → ShellM Bool
  | .ended => do
    ShellM.modifyDesk fun d => { d with exhausted := true, unwound := .none }
    ShellM.ofDesk (DeskM.puts "")
    ShellM.note session .ends
    return false
  | .interrupted => do
    resetBuffers
    ShellM.ofDesk (DeskM.puts "")
    ShellM.note session .interrupted
    return true
  | .line line => do
    match ← takeLine session line with
    | none => return true
    | some text => handleText perform session text

/-- One turn of a loop; tells whether the loop goes on. -/
def turn (perform : Context → ShellM Reply) (session : Session) : ShellM Bool := do
  ShellM.note session .asks
  stepLoop perform session (← readNext)

/-- Runs the loop of a session and gives the value that the session ended with. A loop that is over
needs no fuel to find that out; another one asks in vain. -/
def sessionLoop (perform : Context → ShellM Reply) (session : Session) (fuel : Nat) :
    ShellM Value := do
  let s ← get
  if !s.stack.contains session || s.desk.exhausted then return s.desk.unwound
  else match fuel with
    | 0 =>
      ShellM.note session .asks
      throw .outOfFuel
    | fuel + 1 =>
      if ← turn perform session then sessionLoop perform session fuel
      else return (← get).desk.unwound

/-- More lines than any loop reads. -/
def lineFuel : Nat := 1000000000

/-- Takes a session that is over from the stack. -/
def close (session : Session) (result : Option Value) (s : State) : State :=
  { s with stack := (s.stack.release session).note session (.closes result) s.desk.waiting }

/-- Puts a session on a receiver on top of the others. -/
def openSession (receiver : Value) : ShellM Session := do
  let s ← get
  let scope ← ShellM.ofDesk (DeskM.ofRun (s.stack.top.scope.child receiver))
  let label ← ShellM.ofDesk (DeskM.viewClip receiver)
  let session := s.stack.next receiver scope label
  modify fun s => { s with stack := s.stack.push receiver scope label }
  ShellM.note session .opens
  return session

/-- Starts a session on a receiver and runs its loop. -/
def startSession (perform : Context → ShellM Reply) (receiver : Value) : ShellM Value := do
  let session ← openSession receiver
  ShellM.afterwards (close session) (sessionLoop perform session lineFuel)

/-! ## Bodies that use the shell -/

/-- The ways back into the shell that a body has. -/
structure Reentry where
  /-- Hands a line to the shell. -/
  run : String → ShellM Outcome
  /-- Runs a session on a receiver. -/
  start : Value → ShellM Value

/-- The meaning of bodies. -/
abbrev Bodies := Reentry → Context → ShellM Reply

/-- The ways back into the shell, used at most `fuel` deep. -/
def reentry (bodies : Bodies) : Nat → Reentry
  | 0 => ⟨fun _ => throw .outOfFuel, fun _ => throw .outOfFuel⟩
  | fuel + 1 => {
      run := fun line => dispatchWith (bodies (reentry bodies fuel)) line
      start := fun receiver => startSession (bodies (reentry bodies fuel)) receiver }

/-- Deeper than any nesting of bodies. -/
def nestingFuel : Nat := 1000000

/-- Runs the body of a line's command. -/
def performing (bodies : Bodies) : Context → ShellM Reply := bodies (reentry bodies nestingFuel)

end NestShell.Shell

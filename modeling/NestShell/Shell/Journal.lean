import NestShell.Code.View
import NestShell.Command.Basic
/-!
Sessions, and the journal of what happens in them. An entry remembers which sessions were open and
how many lines waited to become part of a text.
-/
namespace NestShell.Shell

open NestShell.Code

structure Session where
  id : Nat
  level : Nat
  receiver : Value
  scope : Scope
  /-- How the receiver is shown in listings. -/
  label : String

/-- What happens in a session. -/
inductive Event where
  /-- It is started from the one below. -/
  | opens
  /-- Its loop asks for a line. -/
  | asks
  /-- Its loop has a prompt for the line. -/
  | prompts (text : String)
  | takes (line : String)
  /-- The user interrupts its loop. -/
  | interrupted
  /-- Its loop hands on a text. -/
  | submits (text : String)
  /-- A line has a command, whose body runs on the rest of the line. -/
  | runs (command : Command) (remainder : String)
  /-- A text that no command has joins those that wait to be evaluated. -/
  | keeps
  | evaluates (texts : List String)
  | shows (value : Value)
  /-- A signal leaves the sessions above a level; `left` are those that were open before. -/
  | leaves (left : List Session) (level value : Value)
  /-- Its loop finds that the input has ended. -/
  | ends
  /-- It is over; its start gives a value or fails. -/
  | closes (result : Option Value)

structure Entry where
  session : Session
  event : Event
  /-- The sessions that are open after it, from below. -/
  sessions : List Session
  waiting : Nat

end NestShell.Shell

import NestShell.Code.Value
/-!
What commands do: a built-in body, or steps that a user of the shell has put together.
-/
namespace NestShell.Command

open NestShell.Code

inductive Builtin where
  | help
  | alias
  | clearBuffer
  | nest
  | hist
  | exitProgram
  | pipInstall
  | pydoc
  | stat
  | gistSource
  | pkgCd
  | toggleColor
  | simplePrompt
  | shellMode
  | nesting
  | status
  | whereami
  | version
  | exitAll
  | ls
  | catFile
  | evalFile
  | cat
  | cd
  | showDoc
  | showSource
  | showCommand
  | jumpTo
  | exit
  | game
  | shellEscape
  deriving DecidableEq, Repr

inductive Step where
  /-- Gives a value. -/
  | value (v : Value)
  /-- Shows the options, the text after the command's word, the line and the level. -/
  | echo
  /-- Leaves the sessions above a level, to which it hands a value. -/
  | breakout (level value : Value)
  | skip
  | proceed (value : Option Value)
  /-- Raises an exception of a built-in class. -/
  | raise (className : String) (args : List Value)
  /-- Hands lines to the shell and shows what each led to. -/
  | run (lines : List String)
  /-- Evaluates the text after the command's word. -/
  | evaluate
  /-- Reads a line and shows it. -/
  | read (prompt : String)
  /-- Starts a session. -/
  | nest (receiver : Value)
  /-- Drops the session at an index and those above it. -/
  | release (index : Int)
  /-- Sets the style of prompts. -/
  | style (name : String)
  /-- Turns paging on or off. -/
  | pager
  /-- Puts lines after those that are to be replayed. -/
  | replay (lines : List String)
  /-- Calls a value. -/
  | call (f : Value)

inductive Body where
  | builtin (b : Builtin)
  /-- Steps one after another; the first that gives something ends them. -/
  | steps (ss : List Step)
  | absent

end NestShell.Command

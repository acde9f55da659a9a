import NestShell.Command.Registry
/-!
The built-in commands: their names, descriptions, flags and usage texts.
-/
namespace NestShell.Commands

open NestShell.Options NestShell.Text

/-! ## Flags -/

def switch (short : Char) (long help : String) : Flag where
  short := some short
  long := some long
  help := help

def valueFlag (short : Char) (long help metavar : String) : Flag where
  short := some short
  long := some long
  help := help
  kind := .value .none metavar

/-- A flag whose value is a text where it is not given. -/
def textFlag (short : Char) (long help metavar default : String) : Flag where
  short := some short
  long := some long
  help := help
  kind := .value (.str default) metavar

def contextFlag : Flag := valueFlag 'c' "context" "Select object context to run under." ""

def instanceMethodsFlag : Flag := switch 'M' "instance-methods" "Operate on instance methods."

def methodsFlag : Flag := switch 'm' "methods" "Operate on methods."

def floodFlag : Flag :=
  switch 'f' "flood" "Do not use a pager to view text longer than one screen."

def lineNumbersFlag : Flag := switch 'l' "line-numbers" "Show line numbers."

/-! ## Commands -/

/-- A banner of several lines. -/
def usageLines (ls : List String) : String := "\n".intercalate ls

def help : Command where
  name := "help"
  description :=
    "Show a list of commands. Type `help <command>` for information about a specific command."
  body := .builtin .help

def aliasing : Command where
  name := "alias"
  description := "Manage command aliases. e.g. `alias ll ls`"
  options := Schema.withHelp [valueFlag 'd' "delete" "Remove an alias." "NAME"]
  usage := "Usage: alias [NAME COMMAND] [-d NAME]"
  body := .builtin .alias

def clearBuffer : Command where
  name := "!"
  description :=
    "Clear the input buffer. Useful if the parsing process goes wrong and you get stuck in the " ++
      "read loop."
  body := .builtin .clearBuffer

def nest : Command where
  name := "!nest"
  description := "Start a nested session on the current receiver; works mid-expression."
  body := .builtin .nest

def hist : Command where
  name := "hist"
  description := "Show and replay input history."
  options := Schema.withHelp
    [valueFlag 'r' "replay" "The line (or range of lines) to replay." "RANGE"]
  usage := "Usage: hist [-r START..END]"
  body := .builtin .hist

def exitProgram : Command where
  name := "exit-program"
  description := "End the current program."
  aliases := ["quit-program", "!!!"]
  usage := "Usage: exit-program [STATUS]"
  body := .builtin .exitProgram

def pipInstall : Command where
  name := "pip-install"
  description := "Install a package with pip and refresh the import caches."
  usage := "Usage: pip-install PACKAGE [PACKAGE ...]"
  requires := some "pip"
  body := .builtin .pipInstall

def pydoc : Command where
  name := "pydoc"
  description := "Show documentation for a module, class or function using pydoc."
  usage := "Usage: pydoc NAME"
  body := .builtin .pydoc

def stat : Command where
  name := "stat"
  description := "View method information and set _file_ and _dir_ locals"
  options := Schema.withHelp [instanceMethodsFlag, methodsFlag, contextFlag]
  usage := usageLines ["Usage: stat [OPTIONS] [METH]",
    "Show method information for method METH and set _file_ and _dir_ locals.",
    "e.g: stat hello_method", "--"]
  body := .builtin .stat

def gistSource : Command where
  name := "gist-source"
  description := "Gist the source of METH to GitHub."
  options := Schema.withHelp [instanceMethodsFlag, methodsFlag,
    valueFlag 'd' "description" "Gist description." "TEXT",
    switch 'p' "public" "Create a public gist (default is secret).", contextFlag]
  usage := usageLines ["Usage: gist-source [OPTIONS] [METH]",
    "Gist the source for method METH via the `gh` command line tool.",
    "e.g: gist-source my_method", "--"]
  requires := some "gh"
  body := .builtin .gistSource

def pkgCd : Command where
  name := "pkg-cd"
  description := "Change the working directory to the directory of an installed package."
  usage := "Usage: pkg-cd PACKAGE"
  body := .builtin .pkgCd

def toggleColor : Command where
  name := "toggle-color"
  description := "Toggle syntax highlighting."
  body := .builtin .toggleColor

def simplePrompt : Command where
  name := "simple-prompt"
  description := "Toggle the simple prompt."
  body := .builtin .simplePrompt

def shellMode : Command where
  name := "shell-mode"
  description := "Toggle shell mode. Bring in the working directory and `.` commands."
  aliases := ["file-mode"]
  body := .builtin .shellMode

def nesting : Command where
  name := "nesting"
  description := "Show nesting information."
  body := .builtin .nesting

def status : Command where
  name := "status"
  description := "Show status information."
  body := .builtin .status

def whereami : Command where
  name := "whereami"
  description :=
    "Show the code context for the session. Shows AROUND lines around the invocation line " ++
      "(default 5)."
  usage := "Usage: whereami [AROUND]"
  body := .builtin .whereami

def version : Command where
  name := "version"
  description := "Show burrow version."
  body := .builtin .version

def exitAll : Command where
  name := "exit-all"
  description :=
    "End all nested sessions and return to the top level. Accepts optional return value."
  aliases := ["!!@"]
  usage := "Usage: exit-all [EXPR]"
  body := .builtin .exitAll

def ls : Command where
  name := "ls"
  description :=
    "Show the list of vars and methods in the current scope. Type `ls --help` for more info."
  options := Schema.withHelp [
    switch 'v' "verbose" "Show value of variables and constants and locations of methods",
    switch 'L' "less" "Only show methods set by the receiver",
    switch 'a' "more" "Show all of the methods, including those defined in object",
    textFlag 'f' "filter" "Regular expression to filter methods and variables" "" "",
    switch 'l' "locals" "Show local variables",
    switch 'g' "globals" "Show global variables",
    switch 'i' "instance-variables" "Show instance variables",
    switch 'k' "class-variables" "Show class variables",
    switch 'c' "constants" "Show constants",
    switch 'm' "methods" "Show methods",
    switch 'M' "instance-methods" "Show instance methods"]
  usage := "Usage: ls [OPTIONS]"
  body := .builtin .ls

def catFile : Command where
  name := "cat-file"
  description := "Show output of file FILE. Type `cat-file --help` for more information."
  options := Schema.withHelp [lineNumbersFlag,
    textFlag 's' "start" "Start line (default: first line)." "N" "0",
    textFlag 'e' "end" "End line (default: last line)." "N" "-1",
    valueFlag 't' "type" "The specific file type for syntax higlighting (e.g python, json)." "TYPE",
    floodFlag]
  usage := usageLines ["Usage: cat-file FILE [OPTIONS]", "e.g: cat-file hello.py", "--"]
  body := .builtin .catFile

def evalFile : Command where
  name := "eval-file"
  description := "Eval a Python script. Type `eval-file --help` for more info."
  options := Schema.withHelp [contextFlag]
  usage := usageLines ["Usage: eval-file FILE [OPTIONS]",
    "Eval a Python script at top-level or in the specified context. Defaults to top-level.",
    "e.g: eval-file -c self hello.py", "--"]
  body := .builtin .evalFile

def cat : Command where
  name := "cat"
  description := "Show the repr of EXPR."
  aliases := ["inspect"]
  usage := "Usage: cat EXPR"
  body := .builtin .cat

def cd : Command where
  name := "cd"
  description :=
    "Start a session on OBJ (use `cd ..` to go back and `cd /` to return to the top level)"
  keepsValue := true
  usage := "Usage: cd OBJ|..|/"
  body := .builtin .cd

def showDoc : Command where
  name := "show-doc"
  description := "Show the documentation for METH. Type `show-doc --help` for more info."
  aliases := ["?"]
  options := Schema.withHelp [instanceMethodsFlag, methodsFlag, floodFlag, contextFlag]
  usage := usageLines ["Usage: show-doc [OPTIONS] [METH]", "Show the docstring for method METH.",
    "e.g: show-doc hello_method", "--"]
  body := .builtin .showDoc

def showSource : Command where
  name := "show-source"
  description := "Show the source for METH. Type `show-source --help` for more info."
  aliases := ["show-method", "$"]
  options := Schema.withHelp
    [lineNumbersFlag, instanceMethodsFlag, methodsFlag, floodFlag, contextFlag]
  usage := usageLines ["Usage: show-source [OPTIONS] [METH]",
    "Show the source for method METH. Tries instance methods first and then methods by default.",
    "e.g: show-source hello_method", "--"]
  body := .builtin .showSource

def showCommand : Command where
  name := "show-command"
  description := "Show the source for CMD. Type `show-command --help` for more info."
  options := Schema.withHelp [lineNumbersFlag, floodFlag]
  usage := usageLines ["Usage: show-command [OPTIONS] [CMD]",
    "Show the source for command CMD.", "e.g: show-command show-method", "--"]
  body := .builtin .showCommand

def jumpTo : Command where
  name := "jump-to"
  description := "Jump to a session further up the stack, exiting all sessions below."
  usage := "Usage: jump-to LEVEL"
  body := .builtin .jumpTo

def exit : Command where
  name := "exit"
  description := "End the current session. Accepts optional return value."
  aliases := ["quit", "back"]
  usage := "Usage: exit [EXPR]"
  body := .builtin .exit

def game : Command where
  name := "game"
  description := "Guess a number between 0 and MAX (default 100)."
  usage := "Usage: game [MAX]"
  hidden := true
  body := .builtin .game

/-- A point and all that follows it, over several lines. -/
def afterPoint : Pattern where
  nodes := [.place .lineStart, .char 46,
    .group (some 1) {} {} [.repeated .greedy 0 none [.any]], .place .lineEnd]
  settings := { dotAll := true }
  groups := 1

def shellEscape : Command where
  name := ".<shell command>"
  description := "All text following a '.' is forwarded to the shell."
  pattern := some afterPoint
  body := .builtin .shellEscape

/-- The built-in commands in the order in which they are listed. -/
def all : List Command :=
  [help, aliasing, clearBuffer, nest, hist, exitProgram, pipInstall, pydoc, stat, gistSource, pkgCd,
    toggleColor, simplePrompt, shellMode, nesting, status, whereami, version, exitAll, ls, catFile,
    evalFile, cat, cd, showDoc, showSource, showCommand, jumpTo, exit, game, shellEscape]

/-- A registry of the built-in commands. -/
def registry : Registry := all.foldl Registry.register {}

end NestShell.Commands

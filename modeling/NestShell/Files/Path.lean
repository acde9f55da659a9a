import NestShell.Text.Blank
/-!
Paths as texts: their components, joining, the two normal forms, and home directories. The plain
form drops empty components and single dots; the absolute form also resolves double dots, without
looking at any file.
-/
namespace NestShell.Files

open NestShell.Text

/-- What a leading tilde stands for: one's own home directory and those of named users. -/
structure Homes where
  own : String
  others : List (String × String) := []

namespace Path

def components (path : String) : List String := splitOnChar '/' path

/-- The leading slashes that count: two are kept, more are one. -/
def root (path : String) : String :=
  let slashes := (path.toList.takeWhile (· == '/')).length
  if slashes == 0 then "" else if slashes == 2 then "//" else "/"

/-- The components that name something, double dots included. -/
def named (path : String) : List String :=
  (components path).filter fun c => !c.isEmpty && c != "."

/-- A path in plain form. -/
def plain (path : String) : String :=
  let text := root path ++ "/".intercalate (named path)
  if text.isEmpty then "." else text

def isAbsolute (path : String) : Bool := startsWith path "/"

def join (base path : String) : String :=
  if isAbsolute path || base.isEmpty then path
  else if endsWith base "/" then base ++ path
  else base ++ "/" ++ path

/-- One component after those so far, which are held in reverse. -/
def ascend (absolute : Bool) (done : List String) (c : String) : List String :=
  if c != ".." then c :: done
  else
    match done with
    | [] => if absolute then [] else [c]
    | d :: rest => if d == ".." then c :: done else rest

/-- A path in absolute form, seen from a directory. -/
def absolute (current path : String) : String :=
  let full := join current path
  root full ++ "/".intercalate ((named full).foldl (ascend true) []).reverse

/-- What stands before the last slash of a path. -/
def parent (path : String) : String :=
  let front := String.ofList (path.toList.reverse.dropWhile (· != '/')).reverse
  let bare := trimEndOf ['/'] front
  if bare.isEmpty then front else bare

/-- The directory that holds a path in plain form. -/
def directoryOf (path : String) : String :=
  let front := parent path
  if front.isEmpty then "." else front

/-- What stands after the last slash of a path. -/
def base (path : String) : String :=
  String.ofList (path.toList.reverse.takeWhile (· != '/')).reverse

/-- The home directory that the first component of a path stands for. -/
def homeOf? (homes : Homes) (component : String) : Option String :=
  match component.toList with
  | ['~'] => some homes.own
  | '~' :: name => homes.others.lookup (String.ofList name)
  | _ => none

/-- A path with the home directory in place of a leading tilde; without one it stays. -/
def expand (homes : Homes) (path : String) : String :=
  let head := String.ofList (path.toList.takeWhile (· != '/'))
  match homeOf? homes head with
  | none => path
  | some home =>
    let text := trimEndOf ['/'] home ++ String.ofList (path.toList.dropWhile (· != '/'))
    if text.isEmpty then "/" else text

/-- A path in plain form with its home directory; nothing where the home is unknown. -/
def expandPlain? (homes : Homes) (path : String) : Option String :=
  match root path, named path with
  | "", head :: rest =>
    let front := expand homes head
    if startsWith front "~" then none else some (plain (join front ("/".intercalate rest)))
  | _, _ => some (plain path)

end Path

end NestShell.Files

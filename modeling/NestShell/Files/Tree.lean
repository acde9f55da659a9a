import NestShell.Files.Path
import NestShell.Text.Lines
import NestShell.Text.Quoted
import NestShell.Text.Utf8
/-!
A tree of files and the directory in which one works. Every operation names its path as the caller
wrote it, and so does the report of a failure.
-/
namespace NestShell.Files

open NestShell.Text

/-- Where something is: the components from the root down. -/
abbrev Location := List String

inductive Node where
  | directory
  | file (bytes : List UInt8)
  /-- Holds nothing and takes everything. -/
  | device
  deriving DecidableEq, Repr

inductive Fault where
  | missing
  | exists
  | notDirectory
  | isDirectory
  | nameTooLong
  deriving DecidableEq, Repr

def Fault.number : Fault → Nat
  | .missing => 2
  | .exists => 17
  | .notDirectory => 20
  | .isDirectory => 21
  | .nameTooLong => 36

def Fault.text : Fault → String
  | .missing => "No such file or directory"
  | .exists => "File exists"
  | .notDirectory => "Not a directory"
  | .isDirectory => "Is a directory"
  | .nameTooLong => "File name too long"

/-- A failure with the path that it is about. -/
structure Failure where
  fault : Fault
  path : String
  deriving DecidableEq, Repr

def Failure.message (f : Failure) : String :=
  "[Errno " ++ toString f.fault.number ++ "] " ++ f.fault.text ++ ": " ++ quoted f.path

structure Tree where
  nodes : List (Location × Node) := []
  current : Location := []

/-- Why a text file cannot be read. -/
inductive ReadFault where
  | failure (f : Failure)
  | undecodable (f : Utf8.Fault)
  | nullByte

def ReadFault.message : ReadFault → String
  | .failure f => f.message
  | .undecodable f => f.message
  | .nullByte => "embedded null byte"

namespace Tree

def node? (t : Tree) (l : Location) : Option Node :=
  if l.isEmpty then some .directory else t.nodes.lookup l

def isDirectoryAt (t : Tree) (l : Location) : Bool := t.node? l == some .directory

def put (t : Tree) (l : Location) (n : Node) : Tree :=
  { t with nodes := t.nodes.filter (fun e => e.1 != l) ++ [(l, n)] }

def longestName : Nat := 255

/-- Follows the components of a path. All on the way must be directories; the end may be missing. -/
def follow (t : Tree) : Location → List String → Except Fault Location
  | l, [] => .ok l
  | l, c :: cs =>
    match t.node? l with
    | none => .error .missing
    | some .directory =>
      if c.isEmpty || c == "." then follow t l cs
      else if c == ".." then follow t l.dropLast cs
      else if c.utf8ByteSize > longestName then .error .nameTooLong
      else follow t (l ++ [c]) cs
    | some _ => .error .notDirectory

def locate (t : Tree) (path : String) : Except Fault Location :=
  if path.isEmpty then .error .missing
  else if Path.isAbsolute path then t.follow [] (Path.components path)
  else t.follow t.current (Path.components path)

def failing {α : Type} (path : String) : Except Fault α → Except Failure α
  | .ok a => .ok a
  | .error f => .error ⟨f, path⟩

def find? (t : Tree) (path : String) : Option Node :=
  match t.locate path with
  | .ok l => t.node? l
  | .error _ => none

def isFile (t : Tree) (path : String) : Bool := t.find? path matches some (.file _)

def isDirectory (t : Tree) (path : String) : Bool := t.find? path == some .directory

/-- The bytes of a file. -/
def read (t : Tree) (path : String) : Except Failure (List UInt8) :=
  failing path do
    match t.node? (← t.locate path) with
    | none => .error .missing
    | some .directory => .error .isDirectory
    | some .device => .ok []
    | some (.file bytes) => .ok bytes

/-- The text of a file, with line feeds as its only line ends. -/
def readText (t : Tree) (path : String) : Except ReadFault String :=
  if containsChar '\x00' path then .error .nullByte
  else
    match t.read path with
    | .error f => .error (.failure f)
    | .ok bytes =>
      match Utf8.decode bytes with
      | .error f => .error (.undecodable f)
      | .ok s => .ok (universalNewlines s)

/-- Writes a file whose directory exists. -/
def write (t : Tree) (path : String) (bytes : List UInt8) : Except Failure Tree :=
  failing path do
    let l ← t.locate path
    match t.node? l with
    | some .directory => .error .isDirectory
    | some .device => .ok t
    | _ => .ok (t.put l (.file bytes))

/-- Makes directories from a location down. -/
def makeFrom (t : Tree) : Location → List String → Except Fault Tree
  | l, [] => if t.isDirectoryAt l then .ok t else .error .exists
  | l, c :: cs =>
    match t.node? l with
    | some .directory =>
      if c.isEmpty || c == "." then makeFrom t l cs
      else if c == ".." then makeFrom t l.dropLast cs
      else if c.utf8ByteSize > longestName then .error .nameTooLong
      else
        let l' := l ++ [c]
        match t.node? l' with
        | none => makeFrom (t.put l' .directory) l' cs
        | some _ => makeFrom t l' cs
    | _ => .error .notDirectory

/-- Makes a directory and those above it, where they are missing. -/
def makeDirectories (t : Tree) (path : String) : Except Failure Tree :=
  failing path
    (t.makeFrom (if Path.isAbsolute path then [] else t.current) (Path.components path))

/-- Makes a file and the directories above it; what cannot be made is left out. -/
def place (t : Tree) (path : String) (bytes : List UInt8) : Tree :=
  let above := (t.makeDirectories (Path.directoryOf path)).toOption.getD t
  (above.write path bytes).toOption.getD above

/-- Goes to a directory. -/
def enter (t : Tree) (path : String) : Except Failure Tree :=
  failing path do
    let l ← t.locate path
    match t.node? l with
    | none => .error .missing
    | some .directory => .ok { t with current := l }
    | some _ => .error .notDirectory

/-- The directory in which one works. -/
def working (t : Tree) : String := "/" ++ "/".intercalate t.current

/-- The names in a directory, in the order of their characters. -/
def names (t : Tree) (path : String) : List String :=
  match t.locate path with
  | .error _ => []
  | .ok l =>
    let inside := t.nodes.filterMap fun (m, _) =>
      if m.dropLast == l && !m.isEmpty then m.getLast? else none
    inside.mergeSort fun a b => a ≤ b

end Tree

end NestShell.Files

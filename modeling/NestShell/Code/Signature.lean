import NestShell.Code.Scope
/-!
The parameters of values that can be called. Built-in ones are read off the manual; those of a
class are the parameters of its initialiser; a value bound to its first argument lacks the first
parameter.
-/
namespace NestShell.Code

open NestShell.Text

/-- How a parameter is given. -/
inductive ParamRole where
  | required
  | optional
  | keyword
  | rest
  | keywordRest
  deriving DecidableEq, Repr

def ParamRole.label : ParamRole → String
  | .required => "Required:"
  | .optional => "Optional:"
  | .keyword => "Keyword:"
  | .rest => "Rest:"
  | .keywordRest => "Keyrest:"

abbrev Signature := List (ParamRole × String)

namespace Signature

/-- A parameter as the manual writes it. -/
def readParam? (s : String) : Option (ParamRole × String) :=
  match s.toList with
  | 'r' :: n => some (.required, String.ofList n)
  | 'o' :: n => some (.optional, String.ofList n)
  | 'k' :: n => some (.keyword, String.ofList n)
  | '*' :: n => some (.rest, String.ofList n)
  | '^' :: n => some (.keywordRest, String.ofList n)
  | _ => none

def ofManual? (name : String) : Option Signature := do
  let e ← manualOf? name
  let ps ← e.params
  return (words ps).filterMap readParam?

def ofFunction (f : Function) : Signature :=
  f.params.map fun (k, n) =>
    match k with
    | .positional | .regular =>
      (if (f.defaults.lookup n).isSome then .optional else .required, n)
    | .keyword => (.keyword, n)
    | .rest => (.rest, n)
    | .keywordRest => (.keywordRest, n)

/-- What is left when the first position is taken; nothing where there is none. -/
def bound? : Signature → Option Signature
  | (.required, _) :: ps | (.optional, _) :: ps => some ps
  | (.rest, n) :: ps => some ((.rest, n) :: ps)
  | _ => none

/-- Takes the first positions. -/
def dropPositions : Nat → Signature → Signature
  | 0, ps => ps
  | n + 1, (.required, _) :: ps => dropPositions n ps
  | n + 1, (.optional, _) :: ps => dropPositions n ps
  | _, ps => ps

/-- Parameters that some names are already given for: from the first of them on, positions can only
be given by name. -/
def fixNames (names : List String) : Bool → Signature → Signature
  | _, [] => []
  | after, (role, n) :: ps =>
    match role with
    | .required | .optional =>
      if after || names.contains n then (.keyword, n) :: fixNames names true ps
      else (role, n) :: fixNames names false ps
    | .rest => if after then fixNames names after ps else (role, n) :: fixNames names after ps
    | _ => (role, n) :: fixNames names after ps

/-- How many parameters must be given a position. -/
def arity (s : Signature) : Nat := (s.filter fun p => p.1 == .required).length

/-- The names of the parameters, grouped by how they are given. -/
def summary (s : Signature) : String :=
  let roles := (s.map (·.1)).eraseDups
  ". ".intercalate (roles.map fun r =>
    r.label ++ " " ++ ", ".intercalate ((s.filter fun p => p.1 == r).map (·.2)))

end Signature

namespace Run

/-- The parameters of a class that has no initialiser of its own. -/
def inheritedSignature? (c : Value) : Run (Option Signature) := do
  let builtins := (← order c).filterMap builtinName?
  match (builtins.filter (· != "object")).findSome? Signature.ofManual? with
  | some s => return some s
  | none => return if (← builtinBase c) == "object" then some [] else none

/-- The parameters of a value, where it can be called and they are known. -/
def signatureFrom : Nat → Value → Run (Option Signature)
  | 0, _ => return none
  | fuel + 1, v => do
    let bound (f : Value) : Run (Option Signature) := do
      return (← signatureFrom fuel f).bind Signature.bound?
    match v with
    | .type n => return Signature.ofManual? n
    | .native n => return Signature.ofManual? n
    | .slot c n => return (lineage c).findSome? fun k => Signature.ofManual? (k ++ "." ++ n)
    | .method r n =>
      let c ← match r with
        | .type t => pure t
        | _ => builtinBase (← classOf r)
      return ((lineage c ++ ["type"]).findSome? fun k => Signature.ofManual? (k ++ "." ++ n)).map fun
        | (.required, "self") :: ps => ps
        | ps => ps
    | .bound _ f => bound f
    | .ref a =>
      match ← object a with
      | .function f => return some (Signature.ofFunction f)
      | .staticMethod f => signatureFrom fuel f
      | .partialCall f args keywords =>
        return (← signatureFrom fuel f).map fun s =>
          Signature.fixNames keywords.keys false (Signature.dropPositions args.length s)
      | .cls _ =>
        match ← definedIn? "__new__" (← order v), ← definedIn? "__init__" (← order v) with
        | some f, _ => bound (← bindToClass v f)
        | none, some f => bound f
        | none, none => inheritedSignature? v
      | .record c _ => called bound c
      | .error e => called bound e.cls
      | _ => return none
    | _ => return none
where
  called (bound : Value → Run (Option Signature)) (c : Value) : Run (Option Signature) := do
    match ← definedIn? "__call__" (← order c) with
    | some f => bound f
    | none => return none

/-- The parameters of a value, where it can be called and they are known. -/
def signature? (v : Value) : Run (Option Signature) := signatureFrom 20 v

end Run

end NestShell.Code

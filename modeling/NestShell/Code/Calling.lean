import NestShell.Code.Class
import NestShell.Code.Complaint
/-!
What a call hands to the parameters of a function, and how many arguments a built-in function
takes. Positions are filled first, then names, then defaults.
-/
namespace NestShell.Code

/-- Names in a sentence. -/
def listed : List String → String
  | [] => ""
  | [a] => quoteText a
  | [a, b] => quoteText a ++ " and " ++ quoteText b
  | names => ", ".intercalate (names.dropLast.map quoteText) ++ ", and " ++
      quoteText (names.getLastD "")

def plural (n : Nat) : String := if n == 1 then "" else "s"

namespace Function

def namesOf (f : Function) (p : ParamKind → Bool) : List String :=
  (f.params.filter fun (k, _) => p k).map (·.2)

/-- The parameters that positions fill. -/
def positions (f : Function) : List String := f.namesOf (· matches .positional | .regular)

def keywordOnly (f : Function) : List String := f.namesOf (· == .keyword)

def restName? (f : Function) : Option String := (f.namesOf (· == .rest)).head?

def keywordRestName? (f : Function) : Option String := (f.namesOf (· == .keywordRest)).head?

end Function

namespace Run

variable {α : Type}

def callFault (f : Function) (message : String) : Run α :=
  typeError (f.qualifiedName ++ "() " ++ message)

def tooMany (f : Function) (given : Nat) (bound : Names) : Run α :=
  let most := f.positions.length
  let optional := (f.positions.filter fun p => (f.defaults.lookup p).isSome).length
  let byName := (f.keywordOnly.filter bound.contains).length
  let (takes, several) :=
    if optional > 0 then ("from " ++ toString (most - optional) ++ " to " ++ toString most, true)
    else (toString most, most != 1)
  let extra :=
    if byName == 0 then ""
    else " positional argument" ++ plural given ++ " (and " ++ toString byName ++
      " keyword-only argument" ++ plural byName ++ ")"
  callFault f ("takes " ++ takes ++ " positional argument" ++ (if several then "s" else "") ++
    " but " ++ toString given ++ extra ++
    (if given == 1 && byName == 0 then " was" else " were") ++ " given")

def missingArguments (f : Function) (kind : String) (names : List String) : Run α :=
  callFault f ("missing " ++ toString names.length ++ " required " ++ kind ++ " argument" ++
    plural names.length ++ ": " ++ listed names)

/-- Gives the named arguments to their parameters; what no parameter takes is returned. -/
def bindKeywords (f : Function) (keywords : List (String × Value)) :
    List (String × Value) → Names → List (String × Value) → Run (Names × List (String × Value))
  | [], bound, extra => return (bound, extra.reverse)
  | (n, v) :: rest, bound, extra => do
    if (f.namesOf (· matches .regular | .keyword)).contains n then
      if bound.contains n then
        callFault f ("got multiple values for argument " ++ quoteText n)
      else bindKeywords f keywords rest (bound.set n v) extra
    else if f.keywordRestName?.isSome then bindKeywords f keywords rest bound ((n, v) :: extra)
    else
      let byPosition := (f.namesOf (· == .positional)).filter fun p => (keywords.lookup p).isSome
      if byPosition.isEmpty then
        callFault f ("got an unexpected keyword argument " ++ quoteText n)
      else
        callFault f ("got some positional-only arguments passed as keyword arguments: " ++
          quoteText (", ".intercalate byPosition))

/-- Fills the parameters that have no value yet with their defaults. -/
def fillDefaults (f : Function) (names : List String) (bound : Names) : Names :=
  names.foldl (fun t n =>
    if t.contains n then t
    else match f.defaults.lookup n with
      | some v => t.set n v
      | none => t) bound

/-- The variables with which the body of a function starts. -/
def bindArguments (f : Function) (args : List Value) (keywords : List (String × Value)) :
    Run Names := do
  let positions := f.positions
  let (bound, extra) ← bindKeywords f keywords keywords (Names.ofList (positions.zip args)) []
  if args.length > positions.length && f.restName?.isNone then tooMany f args.length bound
  let bound := fillDefaults f positions bound
  let unfilled := positions.filter fun n => !bound.contains n
  if !unfilled.isEmpty then missingArguments f "positional" unfilled
  let bound := fillDefaults f f.keywordOnly bound
  let unfilled := f.keywordOnly.filter fun n => !bound.contains n
  if !unfilled.isEmpty then missingArguments f "keyword-only" unfilled
  let inOrder := Names.ofList ((positions ++ f.keywordOnly).filterMap fun n =>
    (bound.get? n).map fun v => (n, v))
  let withRest := match f.restName? with
    | some n => inOrder.set n (.tuple (args.drop positions.length))
    | none => inOrder
  match f.keywordRestName? with
  | some n => return withRest.set n (← newDict (extra.map fun (k, v) => (.str k, v)))
  | none => return withRest

/-! ## Built-in functions -/

/-- Refuses named arguments; `title` is how the message calls the function. -/
def noKeywords (title : String) (keywords : List (String × Value)) : Run Unit :=
  if keywords.isEmpty then return else typeError (title ++ "() takes no keyword arguments")

/-- Refuses a number of arguments outside the bounds. -/
def checkCount (name : String) (least most : Nat) (args : List Value) : Run Unit := do
  let n := args.length
  let complain (bound : String) (k : Nat) : Run Unit :=
    typeError (name ++ " expected " ++ (if least == most then "" else bound) ++ toString k ++
      " argument" ++ plural k ++ ", got " ++ toString n)
  if n < least then complain "at least " least
  else if n > most then complain "at most " most

/-- The one argument of a function that takes no other. -/
def single (title : String) (args : List Value) (keywords : List (String × Value)) :
    Run Value := do
  noKeywords title keywords
  match args with
  | [v] => return v
  | _ =>
    typeError (title ++ "() takes exactly one argument (" ++ toString args.length ++ " given)")

def noArguments (title : String) (args : List Value) (keywords : List (String × Value)) :
    Run Unit := do
  noKeywords title keywords
  if !args.isEmpty then
    typeError (title ++ "() takes no arguments (" ++ toString args.length ++ " given)")

/-- The arguments of a built-in function whose parameters have names, each with its value if it was
given. -/
def named (name : String) (required : Nat) (params : List String) (args : List Value)
    (keywords : List (String × Value)) : Run (List (Option Value)) := do
  let given := args.length + keywords.length
  if given > params.length then
    typeError (name ++ "() takes at most " ++ toString params.length ++ " " ++
      (if args.isEmpty then "keyword " else "") ++ "argument" ++ plural params.length ++ " (" ++
      toString given ++ " given)")
  for (n, _) in keywords do
    if !params.contains n then
      typeError (quoteText n ++ " is an invalid keyword argument for " ++ name ++ "()")
    if (params.take args.length).contains n then
      typeError ("argument for " ++ name ++ "() given by name (" ++ quoteText n ++
        ") and position (" ++ toString (params.idxOf n + 1) ++ ")")
  let values := params.mapIdx fun i n => (args[i]?).or (keywords.lookup n)
  match (values.take required).findIdx? (·.isNone) with
  | some i =>
    typeError (name ++ "() missing required argument " ++
      quoteText (params.getD i "") ++ " (pos " ++ toString (i + 1) ++ ")")
  | none => return values

end Run

end NestShell.Code

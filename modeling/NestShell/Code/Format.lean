import NestShell.Code.Display
import NestShell.Code.Number
/-!
Texts built from patterns: the format of one value (fill, alignment, width, precision, kind), and
the two kinds of templates, with per cent signs and with braces.
-/
namespace NestShell.Code

open NestShell.Text

/-- How one value is laid out. -/
structure Layout where
  fill : Char := ' '
  align : Option Char := none
  sign : Char := '-'
  alternate : Bool := false
  width : Nat := 0
  comma : Option Char := none
  precision : Option Nat := none
  kind : Option Char := none

def isAlign (c : Char) : Bool := c == '<' || c == '>' || c == '=' || c == '^'

def takeNumber (cs : List Char) : Option Nat × List Char :=
  let ds := cs.takeWhile Char.isDigit
  (if ds.isEmpty then none else some (Decimal.digitsValue ds), cs.drop ds.length)

/-- Reads a layout; `none` where the text is none. -/
def Layout.read? (cs : List Char) : Option Layout :=
  let (l, cs) : Layout × List Char := match cs with
    | f :: a :: r =>
      if isAlign a then ({ fill := f, align := some a }, r)
      else if isAlign f then ({ align := some f }, a :: r) else ({}, cs)
    | [a] => if isAlign a then ({ align := some a }, []) else ({}, cs)
    | [] => ({}, [])
  let (l, cs) := match cs with
    | '+' :: r => ({ l with sign := '+' }, r)
    | '-' :: r => (l, r)
    | ' ' :: r => ({ l with sign := ' ' }, r)
    | _ => (l, cs)
  let (l, cs) := match cs with
    | '#' :: r => ({ l with alternate := true }, r)
    | _ => (l, cs)
  let (l, cs) := match cs with
    | '0' :: r =>
      (if l.align.isNone then { l with fill := '0', align := some '=' } else l, r)
    | _ => (l, cs)
  let (w, cs) := takeNumber cs
  let l := { l with width := w.getD 0 }
  let (l, cs) := match cs with
    | ',' :: r => ({ l with comma := some ',' }, r)
    | '_' :: r => ({ l with comma := some '_' }, r)
    | _ => (l, cs)
  let (p, cs) := match cs with
    | '.' :: r => takeNumber r
    | _ => (none, cs)
  let l := { l with precision := p }
  match cs with
  | [] => some l
  | [k] => some { l with kind := some k }
  | _ => none

/-- Puts a body behind its sign into the width. -/
def Layout.pad (l : Layout) (default : Char) (sign body : String) : String :=
  let missing := l.width - (sign.length + body.length)
  let fill (n : Nat) : String := String.ofList (List.replicate n l.fill)
  match l.align.getD default with
  | '<' => sign ++ body ++ fill missing
  | '^' => fill (missing / 2) ++ sign ++ body ++ fill (missing - missing / 2)
  | '=' => sign ++ fill missing ++ body
  | _ => fill missing ++ sign ++ body

def signText (l : Layout) (negative : Bool) : String :=
  if negative then "-" else if l.sign == '-' then "" else l.sign.toString

/-- Digits in groups from the right. -/
def groupDigits (separator : Char) (size : Nat) (ds : List Char) : List Char :=
  let n := ds.length
  (ds.mapIdx fun i d =>
    if i > 0 && (n - i) % size == 0 then [separator, d] else [d]).flatten

def basedText (base n : Nat) : String := String.ofList (Nat.toDigits base n)

def formatInt (l : Layout) (n : Int) : Option String :=
  let (mark, digits, size) := match l.kind with
    | some 'x' => ("0x", basedText 16 n.natAbs, 4)
    | some 'X' => ("0X", String.ofList ((Nat.toDigits 16 n.natAbs).map Char.toUpper), 4)
    | some 'o' => ("0o", basedText 8 n.natAbs, 4)
    | some 'b' => ("0b", basedText 2 n.natAbs, 4)
    | _ => ("", toString n.natAbs, 3)
  if l.precision.isSome then none
  else
    let digits := match l.comma with
      | some c => String.ofList (groupDigits c size digits.toList)
      | none => digits
    some (l.pad '>' (signText l (n < 0) ++ (if l.alternate then mark else "")) digits)

/-- A quotient rounded to the nearest whole number, ties to the even one. -/
def roundDivide (a b : Nat) : Nat :=
  let q := a / b
  let r := a % b
  if 2 * r > b || (2 * r == b && q % 2 == 1) then q + 1 else q

/-- A positive float as a fraction. -/
def floatRatio (x : Float) : Nat × Nat :=
  let (m, e) := floatModulo.parts x
  if e ≥ 0 then (m <<< e.toNat, 1) else (m, 1 <<< (-e).toNat)

/-- A float with a fixed number of places. -/
def fixedPlaces (places : Nat) (x : Float) : String :=
  let (a, b) := floatRatio x
  let digits := (toString (roundDivide (a * Nat.pow 10 places) b)).toList
  let digits := List.replicate (places + 1 - digits.length) '0' ++ digits
  let whole := digits.take (digits.length - places)
  let part := digits.drop (digits.length - places)
  String.ofList whole ++ (if places == 0 then "" else "." ++ String.ofList part)

/-- The digits of a float to a number of significant places, and the exponent of the first. -/
def significant (places : Nat) (x : Float) : List Char × Int :=
  if x == 0 then (List.replicate places '0', 0)
  else
    let (a, b) := floatRatio x
    let shortest := Decimal.shortest x
    let guess : Int := shortest.exponent + (toString shortest.digits).length - 1
    let scaled (e : Int) : Nat :=
      let k := (places : Int) - 1 - e
      if k ≥ 0 then roundDivide (a * Nat.pow 10 k.toNat) b
      else roundDivide a (b * Nat.pow 10 (-k).toNat)
    let n := scaled guess
    if n ≥ Nat.pow 10 places then ((toString (scaled (guess + 1))).toList, guess + 1)
    else if n < Nat.pow 10 (places - 1) then ((toString (scaled (guess - 1))).toList, guess - 1)
    else ((toString n).toList, guess)

def exponentText (e : Int) : String := Decimal.plainFormat.writeExponent e

def withExponent (places : Nat) (x : Float) : String :=
  let (ds, e) := significant (places + 1) x
  String.ofList (ds.take 1) ++ (if places == 0 then "" else "." ++ String.ofList (ds.drop 1)) ++
    exponentText e

/-- The shorter of both notations with so many significant digits. -/
def general (precision : Nat) (x : Float) : String :=
  let p := max 1 precision
  let (ds, e) := significant p x
  let ds := Decimal.dropTrailingZeros ds
  let ds := if ds.isEmpty then ['0'] else ds
  if -4 ≤ e && e < p then
    if e < 0 then "0." ++ Decimal.zeros ((-e).toNat - 1) ++ String.ofList ds
    else
      let whole := e.toNat + 1
      let front := String.ofList (ds.take whole) ++ Decimal.zeros (whole - ds.length)
      let back := ds.drop whole
      if back.isEmpty then front else front ++ "." ++ String.ofList back
  else
    String.ofList (ds.take 1) ++ (if ds.length > 1 then "." ++ String.ofList (ds.drop 1) else "") ++
      exponentText e

def formatFloat (l : Layout) (x : Float) : Option String :=
  let negative := x.toBits.toNat ≥ Nat.pow 2 63 && !x.isNaN
  let a := x.abs
  let body : Option String :=
    if x.isNaN then some "nan" else if x.isInf then some "inf"
    else
      match l.kind with
      | some 'f' | some 'F' => some (fixedPlaces (l.precision.getD 6) a)
      | some 'e' | some 'E' => some (withExponent (l.precision.getD 6) a)
      | some 'g' | some 'G' | some 'n' => some (general (l.precision.getD 6) a)
      | some '%' => some (fixedPlaces (l.precision.getD 6) (a * 100) ++ "%")
      | none =>
        match l.precision with
        | some p => some (general p a)
        | none => some (Decimal.write a)
      | _ => none
  body.map fun b => l.pad '>' (signText l negative) b

def formatText (l : Layout) (s : String) : Option String :=
  match l.kind with
  | none | some 's' =>
    let cut := match l.precision with
      | some p => String.ofList (s.toList.take p)
      | none => s
    some (l.pad '<' "" cut)
  | _ => none

namespace Run

variable (engine : Engine)

/-- A value in the format that a text describes. -/
def format (v : Value) (spec : String) : Run String := do
  match ← special? v "__format__" with
  | some f => textFrom engine "__format__" f [v, .str spec]
  | none =>
    if spec.isEmpty then engine.text v
    else
      let kind ← typeName v
      match Layout.read? spec.toList with
      | none => valueError ("Invalid format specifier '" ++ spec ++ "' for object of type '" ++
          kind ++ "'")
      | some l =>
        let unknown : Run String := valueError ("Unknown format code '" ++
          ((l.kind.map Char.toString).getD "") ++ "' for object of type '" ++ kind ++ "'")
        match v with
        | .str s => orElse (formatText l s) unknown
        | .bool _ | .int _ =>
          match number? v, l.kind with
          | some (.inl n), none | some (.inl n), some 'd' | some (.inl n), some 'x'
          | some (.inl n), some 'X' | some (.inl n), some 'o' | some (.inl n), some 'b'
          | some (.inl n), some 'n' =>
            orElse (formatInt l n) (valueError "Precision not allowed in integer format specifier")
          | some (.inl n), some 'c' => return l.pad '<' "" (Char.ofNat n.toNat).toString
          | some (.inl n), _ => orElse (formatFloat l (← intToFloat n)) unknown
          | _, _ => unknown
        | .float x => orElse (formatFloat l x) unknown
        | _ => typeError ("unsupported format string passed to " ++ kind ++ ".__format__")
where
  orElse (o : Option String) (p : Run String) : Run String :=
    match o with
    | some s => return s
    | none => p
  textFrom (engine : Engine) (method : String) (f : Value) (args : List Value) : Run String := do
    match ← engine.call f args [] with
    | .str s => return s
    | r => typeError (method ++ " must return a str, not " ++ (← typeName r))

/-- A value as a per cent template converts it. -/
def percentItem (kind : Char) (l : Layout) (v : Value) : Run String := do
  let cut (s : String) : String := match l.precision with
    | some p => String.ofList (s.toList.take p)
    | none => s
  let numeric : Run (Sum Int Float) := do
    match number? v with
    | some n => return n
    | none => typeError ("%" ++ kind.toString ++ " format: a real number is required, not " ++
        (← typeName v))
  match kind with
  | 's' => return l.pad '>' "" (cut (← engine.text v))
  | 'r' | 'a' => return l.pad '>' "" (cut (← engine.shown v))
  | 'd' | 'i' | 'u' => do
    let n ← match ← numeric with
      | .inl n => pure n
      | .inr x => pure ((floatToInt? x).getD 0)
    return (formatInt { l with kind := none, precision := none } n).getD ""
  | 'x' | 'X' | 'o' => do
    match number? v with
    | some (.inl n) => return (formatInt { l with kind := some kind, precision := none } n).getD ""
    | _ => typeError ("%" ++ kind.toString ++ " format: an integer is required, not " ++
        (← typeName v))
  | 'f' | 'F' | 'e' | 'E' | 'g' | 'G' => do
    let x ← match number? v with
      | some n => toFloat n
      | none => typeError ("must be real number, not " ++ (← typeName v))
    return (formatFloat { l with kind := some kind } x).getD ""
  | 'c' =>
    match v with
    | .str s => return l.pad '>' "" s
    | .int n => return l.pad '>' "" (Char.ofNat n.toNat).toString
    | _ => typeError "%c requires int or char"
  | c => valueError ("unsupported format character '" ++ c.toString ++ "' (0x" ++
      basedText 16 c.toNat ++ ") at index 0")

/-- The flags, width and precision of an item of a per cent template. -/
def percentLayout (cs : List Char) : Layout × List Char :=
  let flags := cs.takeWhile fun c => "-+ #0".toList.contains c
  let (w, rest) := takeNumber (cs.drop flags.length)
  let (p, rest) := match rest with
    | '.' :: r => let (p, r) := takeNumber r; (some (p.getD 0), r)
    | _ => (none, rest)
  let left := flags.contains '-'
  let zero := flags.contains '0' && !left
  ({ fill := if zero then '0' else ' '
     align := if left then some '<' else if zero then some '=' else none
     sign := if flags.contains '+' then '+' else if flags.contains ' ' then ' ' else '-'
     alternate := flags.contains '#'
     width := w.getD 0
     precision := p }, rest)

/-- Fills a per cent template from values in order, or from named values. -/
def percent (named : Option Value) : Nat → List Char → List Value → Run (List Char × List Value)
  | 0, _, _ => throw .outOfFuel
  | _ + 1, [], args => return ([], args)
  | fuel + 1, '%' :: cs, args => do
    match cs with
    | '%' :: rest =>
      let (out, left) ← percent named fuel rest args
      return ('%' :: out, left)
    | [] => valueError "incomplete format"
    | _ =>
      let (key, cs) ← match cs with
        | '(' :: r =>
          match cutAt ')' r with
          | some (k, rest) => pure (some (String.ofList k), rest)
          | none => valueError "incomplete format key"
        | _ => pure (none, cs)
      let (l, rest) := percentLayout cs
      match rest with
      | [] => valueError "incomplete format"
      | kind :: rest => do
        match key, named with
        | some k, some d =>
          let v ← engine.call (.method d "__getitem__") [.str k] []
          let s ← percentItem engine kind l v
          let (out, left) ← percent named fuel rest args
          return (s.toList ++ out, left)
        | some _, none => typeError "format requires a mapping"
        | none, _ =>
          match args with
          | [] => typeError "not enough arguments for format string"
          | v :: vs =>
            let s ← percentItem engine kind l v
            let (out, left) ← percent named fuel rest vs
            return (s.toList ++ out, left)
  | fuel + 1, c :: cs, args => do
    let (out, left) ← percent named fuel cs args
    return (c :: out, left)

/-- A text with per cent signs filled from a value. -/
def percentFormat (s : String) (v : Value) : Run Value := do
  let named ← match v with
    | .ref a =>
      match ← object a with
      | .dict _ | .names .. => pure (some v)
      | _ => pure none
    | _ => pure none
  let args := match v with
    | .tuple vs => vs
    | _ => [v]
  let (out, left) ← percent engine named (s.length + 1) s.toList args
  if left.isEmpty || named.isSome then return .str (String.ofList out)
  else typeError "not all arguments converted during string formatting"

/-- The value that a field of a brace template names: a number or name, then attributes and
items. -/
def braceField (args : List Value) (keywords : List (String × Value)) (auto : Nat)
    (field : List Char) : Run (Value × Nat) := do
  let stop (c : Char) : Bool := c == '.' || c == '['
  let head := String.ofList (field.takeWhile fun c => !stop c)
  let indexed (i : Nat) : Run Value := do
    match args[i]? with
    | some v => return v
    | none =>
      raise "IndexError"
        ("Replacement index " ++ toString i ++ " out of range for positional args tuple")
  let (v, auto) ← if head.isEmpty then pure (← indexed auto, auto + 1)
    else if head.toList.all Char.isDigit then
      pure (← indexed (Decimal.digitsValue head.toList), auto)
    else
      match keywords.lookup head with
      | some v => pure (v, auto)
      | none => throwValue (.type "KeyError") [.str head] {}
  let v ← follow (field.length + 1) v (field.dropWhile fun c => !stop c)
  return (v, auto)
where
  follow : Nat → Value → List Char → Run Value
    | 0, v, _ => return v
    | fuel + 1, v, '.' :: cs => do
      let stop (c : Char) : Bool := c == '.' || c == '['
      let n := String.ofList (cs.takeWhile fun c => !stop c)
      follow fuel (← engine.getAttr v n) (cs.dropWhile fun c => !stop c)
    | fuel + 1, v, '[' :: cs => do
      let n := cs.takeWhile (· != ']')
      let key : Value := if n.all Char.isDigit then .int (Decimal.digitsValue n)
        else .str (String.ofList n)
      let w ← engine.call (← engine.getAttr v "__getitem__") [key] []
      follow fuel w ((cs.dropWhile (· != ']')).drop 1)
    | _, v, _ => return v

/-- Fills a brace template. -/
def braces (args : List Value) (keywords : List (String × Value)) :
    Nat → Nat → List Char → Run (List Char)
  | 0, _, _ => throw .outOfFuel
  | _ + 1, _, [] => return []
  | fuel + 1, auto, '\x7b' :: '\x7b' :: cs => do
    return '\x7b' :: (← braces args keywords fuel auto cs)
  | fuel + 1, auto, '\x7d' :: '\x7d' :: cs => do
    return '\x7d' :: (← braces args keywords fuel auto cs)
  | _ + 1, _, '\x7d' :: _ => valueError "Single '\x7d' encountered in format string"
  | _ + 1, _, ['\x7b'] => valueError "Single '\x7b' encountered in format string"
  | fuel + 1, auto, '\x7b' :: cs => do
    match cutAt '\x7d' cs with
    | none => valueError "expected '\x7d' before end of string"
    | some (field, rest) =>
      let name := field.takeWhile fun c => c != '!' && c != ':'
      let tail := field.drop name.length
      let (conversion, tail) := match tail with
        | '!' :: c :: t => (some c, t)
        | t => (none, t)
      let spec := String.ofList (tail.drop 1)
      let (v, auto) ← braceField engine args keywords auto name
      let v ← match conversion with
        | some 'r' => do pure (Value.str (← engine.shown v))
        | some 's' => do pure (Value.str (← engine.text v))
        | _ => pure v
      let s ← format engine v spec
      return s.toList ++ (← braces args keywords fuel auto rest)
  | fuel + 1, auto, c :: cs => do return c :: (← braces args keywords fuel auto cs)

end Run

end NestShell.Code

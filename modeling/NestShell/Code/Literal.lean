import NestShell.Code.Complaint
import NestShell.Code.Value
import NestShell.Decimal.Notation
import NestShell.Text.Quoted
/-!
Literals: the number a token writes, and the text of a quoted string with its escapes.
-/
namespace NestShell.Code.Literal

open NestShell

def hexValue? (c : Char) : Option Nat :=
  if c.isDigit then some (c.toNat - 48)
  else if 'a' ≤ c && c ≤ 'f' then some (c.toNat - 87)
  else if 'A' ≤ c && c ≤ 'F' then some (c.toNat - 55)
  else none

def basedValue (base : Nat) (cs : List Char) : Nat :=
  cs.foldl (fun n c => base * n + (hexValue? c).getD 0) 0

/-- The value of a number token. -/
def number (text : String) : Value :=
  let cs := text.toList.filter (· != '_')
  match cs with
  | '0' :: 'x' :: r | '0' :: 'X' :: r => .int (basedValue 16 r)
  | '0' :: 'o' :: r | '0' :: 'O' :: r => .int (basedValue 8 r)
  | '0' :: 'b' :: r | '0' :: 'B' :: r => .int (basedValue 2 r)
  | _ =>
    if cs.all Char.isDigit then .int (basedValue 10 cs)
    else
      let x := (Decimal.readUnsigned (cs.filter fun c => c != 'j' && c != 'J')).getD 0
      if cs.any fun c => c == 'j' || c == 'J' then .complex 0 x else .float x

/-- A string token taken apart. -/
structure Quoted where
  bytes : Bool
  raw : Bool
  formatted : Bool
  body : List Char

def takeApart (text : String) : Quoted :=
  let cs := text.toList
  let marks := (cs.takeWhile fun c => c != '\x27' && c != '\x22').map Char.toLower
  let rest := cs.drop marks.length
  let size := match rest with
    | a :: b :: c :: _ => if rest.length ≥ 6 && a == b && b == c then 3 else 1
    | _ => 1
  let body := (rest.drop size).take (rest.length - 2 * size)
  ⟨marks.contains 'b', marks.contains 'r', marks.contains 'f', body⟩

def octalValue? (c : Char) : Option Nat :=
  if '0' ≤ c && c ≤ '7' then some (c.toNat - 48) else none

/-- Up to three octal digits. -/
def takeOctal (cs : List Char) : Nat × List Char :=
  let digits := (cs.take 3).takeWhile fun c => (octalValue? c).isSome
  (basedValue 8 digits, cs.drop digits.length)

def simpleEscape? (c : Char) : Option Char :=
  match c with
  | '\\' => some '\\'
  | '\x27' => some '\x27'
  | '\x22' => some '\x22'
  | 'a' => some '\x07'
  | 'b' => some '\x08'
  | 'f' => some '\x0c'
  | 'n' => some '\n'
  | 'r' => some '\r'
  | 't' => some '\t'
  | 'v' => some '\x0b'
  | _ => none

/-- The width of a character where faults count positions. -/
def width (c : Char) : Nat := if c.toNat < 128 then 1 else 10

def faultRange (start stop : Nat) (what : String) : String :=
  if start == stop then
    "'unicodeescape' codec can't decode byte 0x5c in position " ++ toString start ++ ": " ++ what
  else
    "'unicodeescape' codec can't decode bytes in position " ++ toString start ++ "-" ++
      toString stop ++ ": " ++ what

/-- How many hexadecimal digits an escape letter wants, and how a shorter one is called. -/
def hexEscape? (c : Char) : Option (Nat × String) :=
  match c with
  | 'x' => some (2, "truncated \\xXX escape")
  | 'u' => some (4, "truncated \\uXXXX escape")
  | 'U' => some (8, "truncated \\UXXXXXXXX escape")
  | _ => none

/-- The text that a body with escapes stands for; `at_` counts what is read. -/
def unescape : Nat → Nat → List Char → Except Complaint (List Char)
  | 0, _, _ => .ok []
  | _, _, [] => .ok []
  | fuel + 1, at_, '\\' :: c :: cs =>
    if c == '\n' then unescape fuel (at_ + 2) cs
    else
      match simpleEscape? c with
      | some d => (d :: ·) <$> unescape fuel (at_ + 2) cs
      | none =>
        if (octalValue? c).isSome then
          let (n, rest) := takeOctal (c :: cs)
          (Char.ofNat n :: ·) <$> unescape fuel (at_ + 2 + (cs.length - rest.length)) rest
        else
          match hexEscape? c with
          | some (size, short) =>
            let digits := (cs.take size).takeWhile fun d => (hexValue? d).isSome
            let n := basedValue 16 digits
            if digits.length < size then
              .error (.badEscape ("unicode error")
                (faultRange at_ (at_ + 1 + digits.length) short))
            else if n > 0x10FFFF then
              .error (.badEscape "unicode error"
                (faultRange at_ (at_ + 1 + size) "illegal Unicode character"))
            else (Char.ofNat n :: ·) <$> unescape fuel (at_ + 2 + size) (cs.drop size)
          | none =>
            if c == 'N' then
              .error (.badEscape "unicode error"
                (faultRange at_ (at_ + 1) "malformed \\N character escape"))
            else (fun r => '\\' :: c :: r) <$> unescape fuel (at_ + 1 + width c) cs
  | _ + 1, at_, ['\\'] =>
    .error (.badEscape "unicode error" (faultRange at_ at_ "\\ at end of string"))
  | fuel + 1, at_, c :: cs => (c :: ·) <$> unescape fuel (at_ + width c) cs

/-- The bytes that a body with escapes stands for. -/
def unescapeBytes : Nat → Nat → List Char → Except Complaint (List UInt8)
  | 0, _, _ => .ok []
  | _, _, [] => .ok []
  | fuel + 1, at_, '\\' :: c :: cs =>
    if c == '\n' then unescapeBytes fuel (at_ + 2) cs
    else
      match simpleEscape? c with
      | some d => (d.toNat.toUInt8 :: ·) <$> unescapeBytes fuel (at_ + 2) cs
      | none =>
        if (octalValue? c).isSome then
          let (n, rest) := takeOctal (c :: cs)
          (n.toUInt8 :: ·) <$> unescapeBytes fuel (at_ + 2 + (cs.length - rest.length)) rest
        else if c == 'x' then
          let digits := (cs.take 2).takeWhile fun d => (hexValue? d).isSome
          if digits.length < 2 then
            .error (.badEscape "value error" ("invalid \\x escape at position " ++ toString at_))
          else
            ((basedValue 16 digits).toUInt8 :: ·) <$> unescapeBytes fuel (at_ + 4) (cs.drop 2)
        else (fun r => 92 :: c.toNat.toUInt8 :: r) <$> unescapeBytes fuel (at_ + 2) cs
  | fuel + 1, at_, c :: cs => (c.toNat.toUInt8 :: ·) <$> unescapeBytes fuel (at_ + 1) cs

def textBody (raw : Bool) (body : List Char) : Except Complaint String :=
  if raw then .ok (String.ofList body)
  else String.ofList <$> unescape (body.length + 1) 0 body

def bytesBody (q : Quoted) : Except Complaint (List UInt8) :=
  if q.body.any fun c => c.toNat ≥ 128 then .error .bytesNotAscii
  else if q.raw then .ok (q.body.map fun c => c.toNat.toUInt8)
  else unescapeBytes (q.body.length + 1) 0 q.body

end NestShell.Code.Literal

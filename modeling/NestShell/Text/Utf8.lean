/-!
Text as UTF-8 bytes. `decode` reads the bytes strictly: the first sequence that writes no
character is a fault with its position, its length and its cause. `decodeShowing` never fails and
shows the bytes of faulty sequences instead.
-/
namespace NestShell.Text.Utf8

inductive Cause where
  | start
  | continuation
  | truncated
  deriving DecidableEq, Repr

def Cause.message : Cause → String
  | .start => "invalid start byte"
  | .continuation => "invalid continuation byte"
  | .truncated => "unexpected end of data"

/-- The bytes from `position` on, `length` of them, write no character. -/
structure Fault where
  position : Nat
  length : Nat
  byte : UInt8
  cause : Cause
  deriving DecidableEq, Repr

def isTail (b : UInt8) : Bool := 0x80 ≤ b.toNat && b.toNat ≤ 0xBF

/-- The number of bytes of a character, the bits of its first byte, and the range of its second
byte. -/
def lead (b : UInt8) : Option (Nat × Nat × Nat × Nat) :=
  let n := b.toNat
  if n < 0x80 then some (1, n, 0, 0)
  else if n < 0xC2 then none
  else if n < 0xE0 then some (2, n - 0xC0, 0x80, 0xBF)
  else if n == 0xE0 then some (3, 0, 0xA0, 0xBF)
  else if n == 0xED then some (3, 0xD, 0x80, 0x9F)
  else if n < 0xF0 then some (3, n - 0xE0, 0x80, 0xBF)
  else if n == 0xF0 then some (4, 0, 0x90, 0xBF)
  else if n < 0xF4 then some (4, n - 0xF0, 0x80, 0xBF)
  else if n == 0xF4 then some (4, 4, 0x80, 0x8F)
  else none

/-- The outcome of reading one character: it and the rest, or the faulty length and cause. -/
inductive Step where
  | char (c : Char) (size : Nat)
  | fault (length : Nat) (cause : Cause)

/-- Further bytes of a character whose bits so far are `bits`; `seen` bytes are read. -/
def readTail (seen size bits : Nat) : Nat → List UInt8 → Step
  | 0, _ => .char (Char.ofNat bits) size
  | _ + 1, [] => .fault seen .truncated
  | n + 1, b :: bs =>
    if isTail b then readTail (seen + 1) size (bits * 64 + (b.toNat - 0x80)) n bs
    else .fault seen .continuation

/-- Reads the character that begins with byte `b`. -/
def readChar (b : UInt8) (bs : List UInt8) : Step :=
  match lead b with
  | none => .fault 1 .start
  | some (size, bits, low, high) =>
    if size == 1 then .char (Char.ofNat bits) 1
    else
      match bs with
      | [] => .fault 1 .truncated
      | c :: cs =>
        if low ≤ c.toNat && c.toNat ≤ high then
          readTail 2 size (bits * 64 + (c.toNat - 0x80)) (size - 2) cs
        else .fault 1 .continuation

/-- Reads characters; `skip` bytes belong to the character read last, and `position` counts. -/
def decodeFrom (position skip : Nat) (acc : List Char) : List UInt8 → Except Fault (List Char)
  | [] => .ok acc.reverse
  | b :: bs =>
    match skip with
    | skip + 1 => decodeFrom (position + 1) skip acc bs
    | 0 =>
      match readChar b bs with
      | .char c size => decodeFrom (position + 1) (size - 1) (c :: acc) bs
      | .fault length cause => .error ⟨position, length, b, cause⟩

/-- The text that bytes write, or the first fault. -/
def decode (bs : List UInt8) : Except Fault String :=
  String.ofList <$> decodeFrom 0 0 [] bs

def encode (s : String) : List UInt8 := s.toUTF8.toList

def hexByte (b : UInt8) : List Char :=
  let digit (n : Nat) : Char := Char.ofNat (if n < 10 then 48 + n else 87 + n)
  ['\\', 'x', digit (b.toNat / 16), digit (b.toNat % 16)]

/-- Reads characters and shows each byte of a faulty sequence as an escape. -/
def showingFrom (skip shown : Nat) (acc : List Char) : List UInt8 → List Char
  | [] => acc.reverse
  | b :: bs =>
    match skip, shown with
    | skip + 1, _ => showingFrom skip 0 acc bs
    | 0, shown + 1 => showingFrom 0 shown ((hexByte b).reverse ++ acc) bs
    | 0, 0 =>
      match readChar b bs with
      | .char c size => showingFrom (size - 1) 0 (c :: acc) bs
      | .fault length _ => showingFrom 0 (length - 1) ((hexByte b).reverse ++ acc) bs

def decodeShowing (bs : List UInt8) : String := String.ofList (showingFrom 0 0 [] bs)

/-- The report of a fault. -/
def Fault.message (f : Fault) : String :=
  if f.length == 1 then
    "'utf-8' codec can't decode byte 0x" ++ String.ofList ((hexByte f.byte).drop 2) ++
      " in position " ++ toString f.position ++ ": " ++ f.cause.message
  else
    "'utf-8' codec can't decode bytes in position " ++ toString f.position ++ "-" ++
      toString (f.position + f.length - 1) ++ ": " ++ f.cause.message

end NestShell.Text.Utf8

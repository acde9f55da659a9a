/-!
Values of the shell's language. A value that never changes stands for itself; everything with an
identity lives on the heap and is named by its address.
-/
namespace NestShell.Code

/-- Which side of a mapping a view shows. -/
inductive ViewKind where
  | keys
  | values
  | items
  deriving DecidableEq, Repr

inductive Value where
  | none
  | ellipsis
  | notImplemented
  | bool (b : Bool)
  | int (n : Int)
  | float (x : Float)
  | complex (re im : Float)
  | str (s : String)
  | bytes (bs : List UInt8)
  | tuple (items : List Value)
  /-- A built-in class. -/
  | type (name : String)
  /-- A built-in function. -/
  | native (name : String)
  /-- A built-in method looked up on its class. -/
  | slot (owner name : String)
  /-- A built-in method bound to a value. -/
  | method (receiver : Value) (name : String)
  /-- A function bound to a value. -/
  | bound (receiver func : Value)
  /-- A view of a mapping on the heap. -/
  | view (kind : ViewKind) (address : Nat)
  /-- What a command may give to say how the shell goes on: it shows a value, -/
  | proceed (value : Value)
  /-- has none to show, -/
  | noValue
  /-- reads on at once, -/
  | skip
  /-- or leaves the sessions above a level. -/
  | breakout (level value : Value)
  /-- An object on the heap. -/
  | ref (address : Nat)
  deriving Inhabited

mutual
/-- Whether two values are one: same constants, same object. -/
def Value.same : Value → Value → Bool
  | .none, .none => true
  | .ellipsis, .ellipsis => true
  | .notImplemented, .notImplemented => true
  | .bool a, .bool b => a == b
  | .int a, .int b => a == b
  | .float a, .float b => a.toBits == b.toBits
  | .complex a x, .complex b y => a.toBits == b.toBits && x.toBits == y.toBits
  | .str a, .str b => a == b
  | .bytes a, .bytes b => a == b
  | .tuple a, .tuple b => Value.sameList a b
  | .type a, .type b => a == b
  | .native a, .native b => a == b
  | .slot a m, .slot b n => a == b && m == n
  | .method a m, .method b n => Value.same a b && m == n
  | .bound a f, .bound b g => Value.same a b && Value.same f g
  | .view k a, .view l b => k == l && a == b
  | .proceed a, .proceed b => Value.same a b
  | .noValue, .noValue => true
  | .skip, .skip => true
  | .breakout l a, .breakout m b => Value.same l m && Value.same a b
  | .ref a, .ref b => a == b
  | _, _ => false

def Value.sameList : List Value → List Value → Bool
  | [], [] => true
  | a :: as, b :: bs => Value.same a b && Value.sameList as bs
  | _, _ => false
end

def Value.isNone : Value → Bool
  | .none => true
  | _ => false

/-- The fields of a value that is a signal, in their order. -/
def Value.signalFields? : Value → Option (List (String × Value))
  | .proceed v => some [("value", v)]
  | .skip => some []
  | .breakout level v => some [("target_level", level), ("value", v)]
  | _ => Option.none

end NestShell.Code

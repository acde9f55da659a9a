import NestShell.Code.Value
import NestShell.Table
/-!
Tables of named values.
-/
namespace NestShell.Code

structure Names where
  entries : List (String × Value) := []

namespace Names

def get? (t : Names) (n : String) : Option Value := t.entries.lookup n

def contains (t : Names) (n : String) : Bool := (t.get? n).isSome

def set (t : Names) (n : String) (v : Value) : Names := ⟨Table.set n v t.entries⟩

def erase (t : Names) (n : String) : Names := ⟨Table.erase n t.entries⟩

def keys (t : Names) : List String := t.entries.map (·.1)

def ofList (es : List (String × Value)) : Names := es.foldl (fun t (n, v) => t.set n v) {}

/-- The bindings of `u` over those of `t`. -/
def merge (t u : Names) : Names := u.entries.foldl (fun t (n, v) => t.set n v) t

@[simp] theorem get?_set_self (t : Names) (n : String) (v : Value) :
    (t.set n v).get? n = some v := Table.lookup_set_self n v t.entries

end Names

end NestShell.Code

/-!
Tables: lists of named entries in the order in which the names were first bound. Binding a name
again keeps its place.
-/
namespace NestShell.Table

variable {α : Type}

def set (n : String) (a : α) : List (String × α) → List (String × α)
  | [] => [(n, a)]
  | (m, b) :: rest => if m == n then (n, a) :: rest else (m, b) :: set n a rest

def erase (n : String) (t : List (String × α)) : List (String × α) := t.filter (·.1 != n)

theorem lookup_set_self (n : String) (a : α) (t : List (String × α)) :
    (set n a t).lookup n = some a := by
  induction t with
  | nil => simp [set]
  | cons e t ih =>
    by_cases h : e.1 = n
    · simp [set, h]
    · have h' : (n == e.1) = false := by simp [Ne.symm h]
      rw [set, if_neg (by simpa using h), List.lookup_cons, h']
      exact ih

end NestShell.Table

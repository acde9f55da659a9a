import NestShell.Program.Startup
import NestShell.Proofs.Shell.Failure

/-!
# The status that an exception gives

An exception that ends the program may carry a code. A number is the status, and no code or an empty
one means zero. A text gives the number that it writes; for other texts, and for values that are no
numbers, reading the status raises an exception itself.
-/

namespace NestShell.Code

/-! ## Reading the code -/

theorem definedIn?_builtin (n : String) (names : List String) (m : Machine) :
    Run.definedIn? n (names.map .type) m = .ok none m := by
  induction names with
  | nil => rfl
  | cons name rest ih => exact ih

theorem openInstances_builtin (names : List String) (m : Machine) :
    (names.map Value.type).anyM (fun
      | .ref a => do
        match ← Run.object a with
        | .cls k => return !k.members.contains "__slots__"
        | _ => return false
      | _ => return false : Value → Run Bool) m = .ok false m := by
  induction names with
  | nil => rfl
  | cons name rest ih => exact ih

/-- The code that an exception of the built-in class has by itself is the one that is read. -/
theorem getAttr_code {x : Nat} {m : Machine} {v : Value} {e : Exception}
    (held : m.object x = .error e) (builtin : e.cls = .type "SystemExit")
    (given : e.attrs.get? "code" = some v) :
    engine.getAttr (.ref x) "code" m = .ok v m := by
  have classes : Run.order e.cls m = .ok ((lineage "SystemExit").map Value.type) m := by
    rw [builtin]
    rfl
  have undefined : Run.definedIn? "code" ((lineage "SystemExit").map .type) m = .ok none m :=
    definedIn?_builtin "code" _ m
  have own : Run.instanceAttr (engineOf 999999) (.ref x) e.cls e.attrs "code" m = .ok v m := by
    unfold Run.instanceAttr
    rw [Run.bind_apply, classes]
    dsimp only
    rw [Run.bind_apply, undefined]
    dsimp only
    rw [given]
    have closed : Run.openInstances e.cls m = .ok false m := by
      unfold Run.openInstances
      rw [Run.bind_apply, classes]
      exact openInstances_builtin _ m
    change (Run.openInstances e.cls >>= _) m = _
    rw [Run.bind_apply, closed]
    rfl
  change Run.getAttr (engineOf 999999) (.ref x) "code" m = _
  unfold Run.getAttr
  dsimp only
  rw [Run.bind_apply, Run.object_apply, held]
  dsimp only
  rw [Run.bind_apply, classes]
  dsimp only
  rw [Run.bind_apply, undefined]
  exact own

end NestShell.Code

namespace NestShell.Program

open NestShell.Code NestShell.Text NestShell.Shell

section Codes

variable {x : Nat} {m t u w : Machine} {v : Value} {n : Int}

/-- What a code comes to: the number that it is or writes, or an exception of a class. -/
inductive Comes : Value → Except String Int → Prop where
  | absent : Comes .none (.ok 0)
  | number (n : Int) : Comes (.int n) (.ok n)
  | truth (b : Bool) : Comes (.bool b) (.ok (if b then 1 else 0))
  | blank : Comes (.str "") (.ok 0)
  | written {s : String} {n : Int} : int? s = some n → Comes (.str s) (.ok n)
  | unwritten {s : String} : s ≠ "" → int? s = none → Comes (.str s) (.error "ValueError")
  | empty : Comes (.tuple []) (.ok 0)
  | several (v : Value) (vs : List Value) : Comes (.tuple (v :: vs)) (.error "TypeError")

theorem exitStatus_empty (read : engine.getAttr (.ref x) "code" m = .ok v t)
    (empty : Run.truth engine v t = .ok false u) : exitStatus x m = .ok 0 u := by
  unfold exitStatus
  rw [Run.bind_apply, read]
  dsimp only
  rw [Run.bind_apply, empty]
  rfl

theorem exitStatus_given (read : engine.getAttr (.ref x) "code" m = .ok v t)
    (given : Run.truth engine v t = .ok true u) :
    exitStatus x m = (do
      match ← Run.makeInt engine [v] [] with
      | .int n => return n
      | _ => return 0 : Run Int) u := by
  unfold exitStatus
  rw [Run.bind_apply, read]
  dsimp only
  rw [Run.bind_apply, given]
  rfl

theorem exitStatus_number (read : engine.getAttr (.ref x) "code" m = .ok v t)
    (given : Run.truth engine v t = .ok true u)
    (number : Run.makeInt engine [v] [] u = .ok (.int n) w) : exitStatus x m = .ok n w := by
  rw [exitStatus_given read given, Run.bind_apply, number]
  rfl

theorem exitStatus_fault {f : Code.Fault} (read : engine.getAttr (.ref x) "code" m = .ok v t)
    (given : Run.truth engine v t = .ok true u)
    (fault : Run.makeInt engine [v] [] u = .error f w) : exitStatus x m = .error f w := by
  rw [exitStatus_given read given, Run.bind_apply, fault]

/-- A text that is not empty counts as given. -/
theorem truth_text {s : String} (filled : s ≠ "") (m : Machine) :
    Run.truth engine (.str s) m = .ok true m := by
  have counts : (s.length != 0) = true := by
    simpa [bne_iff_ne, String.length_eq_zero_iff] using filled
  change (.ok (s.length != 0) m : EStateM.Result Code.Fault Machine Bool) = _
  rw [counts]

/-- For a text that writes no number there is an exception. -/
theorem makeInt_malformed {s : String} (unread : int? s = none) (m : Machine) :
    ∃ y u, Run.makeInt engine [.str s] [] m = .error (.raised y) u ∧
      u.isOf y "ValueError" = true := by
  unfold int? at unread
  cases read : readInt s with
  | ok i =>
    rw [read] at unread
    cases unread
  | error f =>
    obtain ⟨e, builtin, made⟩ := Run.makeInt_unread read m
    refine ⟨_, _, made, ?_⟩
    rw [Machine.isOf_newest (e := e) rfl builtin]
    decide +kernel

theorem readInt_of_int? {s : String} (reads : int? s = some n) : readInt s = .ok n := by
  unfold int? at reads
  cases read : readInt s with
  | error f =>
    rw [read] at reads
    cases reads
  | ok i =>
    rw [read] at reads
    exact congrArg Except.ok (Option.some.inj reads)

theorem exitStatus_carried (read : engine.getAttr (.ref x) "code" m = .ok v t)
    (comes : Comes v (.ok n)) : exitStatus x m = .ok n t := by
  cases comes with
  | absent => exact exitStatus_empty read rfl
  | number =>
    by_cases zero : n = 0
    · subst zero
      exact exitStatus_empty read rfl
    · have counts : (n != 0) = true := by simpa using zero
      refine exitStatus_number read ?_ rfl
      change (.ok (n != 0) t : EStateM.Result Code.Fault Machine Bool) = _
      rw [counts]
  | truth b =>
    cases b with
    | false => exact exitStatus_empty read rfl
    | true => exact exitStatus_number read rfl rfl
  | blank => exact exitStatus_empty read rfl
  | @written s _ reads =>
    have filled : s ≠ "" := by
      rintro rfl
      have unread : int? "" = none := by decide +kernel
      cases unread.symm.trans reads
    exact exitStatus_number read (truth_text filled t)
      (Run.makeInt_text (readInt_of_int? reads) t)
  | empty => exact exitStatus_empty read rfl

theorem exitStatus_uncarried {name : String} (read : engine.getAttr (.ref x) "code" m = .ok v t)
    (comes : Comes v (.error name)) :
    ∃ y u, exitStatus x m = .error (.raised y) u ∧ u.isOf y name = true := by
  cases comes with
  | unwritten filled unread =>
    obtain ⟨y, u, fault, is⟩ := makeInt_malformed unread t
    exact ⟨y, u, exitStatus_fault read (truth_text filled t) fault, is⟩
  | several =>
    refine ⟨_, _, exitStatus_fault read rfl rfl, ?_⟩
    rw [Machine.isOf_newest rfl rfl]
    decide +kernel

end Codes

end NestShell.Program

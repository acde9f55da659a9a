import NestShell.Code.Scope

/-!
# Where checked statements lead

A statement leads to the next one, unless it returns from a function, or breaks off or repeats a
loop. A program is checked before it is run: no `return` stands outside a function, and no `break`
or `continue` outside a loop. A checked statement therefore leads only where its place allows, and
a checked program runs from its first statement to its last.
-/

namespace NestShell.Code

/-! ## What passes the check -/

namespace Check

variable {α β : Type} {place inside : Place} {depth line : Nat} {flow : Flow} {ss ts : List Stmt}
  {ofExpr ofTarget : Expr → Verdict}

theorem bind_ok {a : Except SyntaxFault α} {f : α → Except SyntaxFault β} {b : β} :
    (a >>= f) = .ok b ↔ ∃ x, a = .ok x ∧ f x = .ok b := by
  cases a with
  | ok x =>
    refine ⟨fun rest => ⟨x, rfl, rest⟩, fun ⟨y, same, rest⟩ => ?_⟩
    cases same
    exact rest
  | error f => exact ⟨fun stopped => (nomatch stopped), fun ⟨_, same, _⟩ => (nomatch same)⟩

theorem andThen_ok {a : Verdict} {f : Unit → Except SyntaxFault β} {b : β} :
    (a >>= f) = .ok b ↔ a = .ok () ∧ f () = .ok b :=
  bind_ok.trans ⟨fun ⟨_, first, rest⟩ => ⟨first, rest⟩, fun ⟨first, rest⟩ => ⟨(), first, rest⟩⟩

theorem forM_ok {f : α → Verdict} {as : List α} :
    as.forM f = .ok () ↔ ∀ a ∈ as, f a = .ok () := by
  induction as with
  | nil => exact ⟨fun _ a member => (nomatch member), fun _ => rfl⟩
  | cons a as ih =>
    change (f a >>= fun _ => as.forM f) = .ok () ↔ _
    rw [andThen_ok, ih, List.forall_mem_cons]

theorem refuse_ok {wrong : Bool} {c : Complaint} (passed : refuse wrong line c = .ok ()) :
    wrong = false := by
  cases wrong with
  | false => rfl
  | true => cases passed

/-! ### Places -/

/-- Where a statement may lead from its place. -/
def Place.Allows (place : Place) : Flow → Prop
  | .next => True
  | .ret _ => place.inFunction = true
  | .stop | .again => place.inLoop = true

/-- A place inside another from which statements lead no further. -/
def Place.Narrows (inside place : Place) : Prop := ∀ flow, inside.Allows flow → place.Allows flow

theorem narrows_refl (place : Place) : place.Narrows place := fun _ allowed => allowed

theorem narrows_under {e : Enclosure} (plain : e ≠ .loop) : (place.under e).Narrows place := by
  intro flow allowed
  cases e with
  | loop => exact absurd rfl plain
  | group | ended | managed | other => cases flow <;> exact allowed

theorem enter_ok {e : Enclosure} (entered : place.enter line e = .ok inside) :
    inside = place.under e := by
  unfold Place.enter at entered
  split at entered
  · cases entered
  · exact (Except.ok.inj entered).symm

/-- Statements that pass the check in their place. -/
def Passes (depth : Nat) (place : Place) (ss : List Stmt) : Prop :=
  ∀ s ∈ ss, checkStmt depth place s = .ok ()

/-- Statements that pass the check in a place from which they lead no further than the place
allows. -/
def Fits (depth : Nat) (place : Place) (ss : List Stmt) : Prop :=
  ∃ inside : Place, inside.Narrows place ∧ Passes depth inside ss

theorem Passes.fits (passes : Passes depth place ss) : Fits depth place ss :=
  ⟨place, narrows_refl place, passes⟩

theorem Fits.widen (fits : Fits depth inside ss) (narrows : inside.Narrows place) :
    Fits depth place ss :=
  let ⟨innermost, inner, passes⟩ := fits
  ⟨innermost, fun flow allowed => narrows flow (inner flow allowed), passes⟩

/-- The check of a block at some depth. -/
abbrev ofBlock (depth : Nat) (place : Place) (ss : List Stmt) : Verdict :=
  ss.forM (checkStmt depth place)

/-! ### Parts of statements -/

theorem checked_contexts {body : List Stmt} {contexts : List (Expr × Option Expr)}
    (checked : checkContexts ofExpr ofTarget (ofBlock depth) line body place contexts = .ok ()) :
    Fits depth place body := by
  induction contexts generalizing place with
  | nil => exact Passes.fits (forM_ok.mp checked)
  | cons context rest ih =>
    obtain ⟨inside, entered, checked⟩ := bind_ok.mp (andThen_ok.mp checked).2
    obtain rfl := enter_ok entered
    have fits : Fits depth (place.under .managed) body := ih (andThen_ok.mp checked).2
    exact fits.widen (narrows_under nofun)

theorem checked_handlers {handlers : List Handler}
    (checked : checkHandlers ofExpr (ofBlock depth) place handlers = .ok ()) :
    ∀ l kind name body, .mk l kind name body ∈ handlers → Fits depth place body := by
  induction handlers with
  | nil => exact fun _ _ _ _ member => (nomatch member)
  | cons handler rest ih =>
    obtain ⟨line, kind, name, body⟩ := handler
    obtain ⟨-, checked⟩ := andThen_ok.mp checked
    obtain ⟨-, checked⟩ := andThen_ok.mp checked
    obtain ⟨-, checked⟩ := andThen_ok.mp checked
    obtain ⟨inside, entered, checked⟩ := bind_ok.mp checked
    obtain ⟨ofBody, ofRest⟩ := andThen_ok.mp checked
    obtain rfl := enter_ok entered
    intro l k n b member
    cases member with
    | head => exact ⟨place.under .other, narrows_under nofun, forM_ok.mp ofBody⟩
    | tail _ later => exact ih ofRest l k n b later

theorem checked_cases {several : Bool} {cases_ : List Case}
    (checked : checkCases ofExpr (ofBlock depth place) several cases_ = .ok ()) :
    ∀ shape test body, .mk shape test body ∈ cases_ → Passes depth place body := by
  induction cases_ with
  | nil => exact fun _ _ _ member => (nomatch member)
  | cons case_ rest ih =>
    obtain ⟨shape, test, body⟩ := case_
    obtain ⟨-, checked⟩ := andThen_ok.mp checked
    obtain ⟨-, checked⟩ := andThen_ok.mp checked
    obtain ⟨ofBody, ofRest⟩ := andThen_ok.mp checked
    intro s t b member
    cases member with
    | head => exact forM_ok.mp ofBody
    | tail _ later => exact ih ofRest s t b later

theorem checked_guarded {grouped : Bool} {body otherwise : List Stmt} {handlers : List Handler}
    (checked : checkGuarded ofExpr (ofBlock depth) place line grouped body handlers otherwise =
      .ok ()) :
    Fits depth place body ∧
      (∀ l kind name rest, .mk l kind name rest ∈ handlers → Fits depth place rest) ∧
      Fits depth place otherwise := by
  obtain ⟨inside, entered, checked⟩ := bind_ok.mp checked
  obtain ⟨ofBody, checked⟩ := andThen_ok.mp checked
  obtain ⟨before, checked⟩ := andThen_ok.mp checked
  obtain ⟨ofHandlers, after⟩ := andThen_ok.mp checked
  obtain rfl := enter_ok entered
  have plain : (if grouped then Enclosure.group else .other) ≠ .loop := by
    cases grouped <;> nofun
  have ofOtherwise : Passes depth place otherwise := by
    cases grouped with
    | false => exact forM_ok.mp before
    | true => exact forM_ok.mp after
  refine ⟨⟨place.under .other, narrows_under nofun, forM_ok.mp ofBody⟩,
    fun l kind name rest member => ?_, ofOtherwise.fits⟩
  exact (checked_handlers ofHandlers l kind name rest member).widen (narrows_under plain)

theorem checked_ended {grouped : Bool} {body otherwise : List Stmt} {handlers : List Handler}
    (checked : checkEnded ofExpr (ofBlock depth) place line grouped body handlers otherwise =
      .ok ()) :
    Fits depth place body ∧
      (∀ l kind name rest, .mk l kind name rest ∈ handlers → Fits depth place rest) ∧
      Fits depth place otherwise := by
  unfold checkEnded at checked
  split at checked
  · next none =>
    obtain rfl := List.isEmpty_iff.mp none
    obtain ⟨ofBody, ofOtherwise⟩ := List.forall_mem_append.mp (forM_ok.mp checked)
    exact ⟨Passes.fits ofBody, nofun, Passes.fits ofOtherwise⟩
  · exact checked_guarded checked

theorem checked_guard {grouped : Bool} {body otherwise final : List Stmt}
    {handlers : List Handler}
    (checked : checkStmt (depth + 1) place (.guard line grouped body handlers otherwise final) =
      .ok ()) :
    Fits depth place body ∧
      (∀ l kind name rest, .mk l kind name rest ∈ handlers → Fits depth place rest) ∧
      Fits depth place otherwise ∧ Passes depth place final := by
  unfold checkStmt checkGuard at checked
  dsimp only at checked
  split at checked
  · next none =>
    obtain ⟨ofBody, ofHandlers, ofOtherwise⟩ := checked_guarded checked
    obtain rfl := List.isEmpty_iff.mp none
    exact ⟨ofBody, ofHandlers, ofOtherwise, nofun⟩
  · obtain ⟨inside, entered, checked⟩ := bind_ok.mp checked
    obtain ⟨ended, checked⟩ := andThen_ok.mp checked
    obtain ⟨ofFinal, -⟩ := andThen_ok.mp checked
    obtain ⟨ofBody, ofHandlers, ofOtherwise⟩ := checked_ended ended
    obtain rfl := enter_ok entered
    have narrows : (place.under (.ended final)).Narrows place :=
      narrows_under nofun
    exact ⟨ofBody.widen narrows, fun l kind name rest member =>
      (ofHandlers l kind name rest member).widen narrows, ofOtherwise.widen narrows,
      forM_ok.mp ofFinal⟩

/-! ### Statements -/

theorem checked_each {async : Bool} {target source : Expr} {body final : List Stmt}
    (checked : checkStmt (depth + 1) place (.each line async target source body final) = .ok ()) :
    Passes depth (place.under .loop) body ∧ Passes depth place final := by
  obtain ⟨-, checked⟩ := andThen_ok.mp checked
  obtain ⟨-, checked⟩ := andThen_ok.mp checked
  obtain ⟨inside, entered, checked⟩ := bind_ok.mp checked
  obtain ⟨-, checked⟩ := andThen_ok.mp checked
  obtain ⟨-, checked⟩ := andThen_ok.mp checked
  obtain rfl := enter_ok entered
  exact (andThen_ok.mp checked).imp forM_ok.mp forM_ok.mp

theorem checked_loop {test : Expr} {body final : List Stmt}
    (checked : checkStmt (depth + 1) place (.loop line test body final) = .ok ()) :
    Passes depth (place.under .loop) body ∧ Passes depth place final := by
  obtain ⟨inside, entered, checked⟩ := bind_ok.mp checked
  obtain ⟨-, checked⟩ := andThen_ok.mp checked
  obtain rfl := enter_ok entered
  exact (andThen_ok.mp checked).imp forM_ok.mp forM_ok.mp

theorem checked_choose {test : Expr} {yes no : List Stmt}
    (checked : checkStmt (depth + 1) place (.choose line test yes no) = .ok ()) :
    Passes depth place yes ∧ Passes depth place no :=
  (andThen_ok.mp (andThen_ok.mp checked).2).imp forM_ok.mp forM_ok.mp

theorem checked_ret {value : Option Expr}
    (checked : checkStmt (depth + 1) place (.ret line value) = .ok ()) :
    place.inFunction = true :=
  Bool.not_eq_false' .. |>.mp (refuse_ok (andThen_ok.mp checked).1)

/-- A way out that a loop stops lies in a loop. -/
theorem leave_stopped {ofBlock : List Enclosure → List Stmt → Verdict} {at_ : Int}
    {enclosures : List Enclosure} (found : leave ofBlock true at_ enclosures = .ok true) :
    enclosures.any (· matches .loop) = true := by
  induction enclosures generalizing at_ with
  | nil => cases found
  | cons e es ih =>
    cases e with
    | loop => rfl
    | group => cases found
    | ended final => exact ih (andThen_ok.mp found).2
    | managed => exact ih found
    | other => exact ih found

theorem checked_leave {ofBlock : Place → List Stmt → Verdict} {outside : Complaint}
    (checked : checkLeave ofBlock place line outside = .ok ()) : place.inLoop = true := by
  obtain ⟨found, left, inLoop⟩ := bind_ok.mp checked
  obtain rfl : found = true := Bool.not_eq_false' .. |>.mp (refuse_ok inLoop)
  exact leave_stopped left

end Check

/-! ## What a run gives -/

namespace Run

open Check

variable {α β : Type} {P : α → Prop} {Q : β → Prop}

/-- A run that ends with a value gives one with a property. -/
def Gives (P : α → Prop) (p : Run α) : Prop := ∀ m t a, p m = .ok a t → P a

theorem gives_pure {a : α} (holds : P a) : Gives P (pure a) := fun _ _ _ ran => by
  cases ran
  exact holds

theorem gives_throw (f : Fault) : Gives P (throw f) := fun _ _ _ ran => (nomatch ran)

theorem gives_bind {p : Run β} {f : β → Run α} (first : Gives Q p)
    (rest : ∀ b, Q b → Gives P (f b)) : Gives P (p >>= f) := by
  intro m t a ran
  change EStateM.bind p f m = _ at ran
  unfold EStateM.bind at ran
  cases firstRan : p m with
  | ok b u =>
    rw [firstRan] at ran
    exact rest b (first m u b firstRan) u t a ran
  | error f u =>
    rw [firstRan] at ran
    cases ran

/-- Nothing need be known of what the first part gives. -/
theorem gives_after {p : Run β} {f : β → Run α} (rest : ∀ b, Gives P (f b)) :
    Gives P (p >>= f) :=
  gives_bind (Q := fun _ => True) (fun _ _ _ _ => trivial) fun b _ => rest b

theorem gives_throwValue (cls : Value) (args : List Value) (attrs : Names) :
    Gives P (throwValue cls args attrs) := gives_after fun _ => gives_throw _

theorem gives_typeError (message : String) : Gives P (typeError message) :=
  gives_throwValue _ _ _

theorem gives_ite {c : Prop} [Decidable c] {p q : Run α} (yes : Gives P p) (no : Gives P q) :
    Gives P (if c then p else q) := by
  split
  · exact yes
  · exact no

theorem gives_catching {p : Run α} {handler : Nat → Run α} (tried : Gives P p)
    (handled : ∀ x, Gives P (handler x)) : Gives P (catching p handler) := by
  intro m t a ran
  unfold catching at ran
  split at ran
  · exact handled _ _ t a ran
  · exact tried m t a ran

/-- A piece of a frame that ends with a value comes back at the depth at which it began. -/
theorem inPlace_ok {p : Run α} {m t : Machine} {a : α} (ran : inPlace p m = .ok a t) :
    ∃ u, p m = .ok a u ∧ t = { u with depth := m.depth } := by
  unfold inPlace at ran
  cases inside : p m with
  | ok b u =>
    rw [inside] at ran
    cases ran
    exact ⟨u, rfl, rfl⟩
  | error f u =>
    rw [inside] at ran
    cases ran

theorem gives_inPlace {p : Run α} (gives : Gives P p) : Gives P (inPlace p) := by
  intro m t a ran
  obtain ⟨u, inside, -⟩ := inPlace_ok ran
  exact gives m u a inside

/-- A run with its exception kept as a value. -/
theorem gives_kept {p : Run α} (gives : Gives P p) :
    Gives (fun outcome : Except Nat α => ∀ a, outcome = .ok a → P a)
      (catching (do return Except.ok (← p)) fun x => return Except.error x) :=
  gives_catching
    (gives_bind gives fun _ holds => gives_pure fun _ same => by cases same; exact holds)
    fun _ => gives_pure fun _ same => (nomatch same)

/-- What follows a run with its exception kept. -/
theorem gives_outcome {p : Run β} {f : Except Nat β → Run α} (tried : Gives Q p)
    (returned : ∀ b, Q b → Gives P (f (.ok b))) (raised : ∀ x, Gives P (f (.error x))) :
    Gives P (catching (do return Except.ok (← p)) (fun x => return Except.error x) >>= f) := by
  refine gives_bind (gives_kept tried) fun outcome holds => ?_
  cases outcome with
  | ok b => exact returned b (holds b rfl)
  | error x => exact raised x

/-! ## Where statements lead -/

variable {place : Place} {depth : Nat} {engine : Engine} {frame : Frame}

/-- An engine of which checked statements lead only where their place allows. -/
def Obeys (depth : Nat) (engine : Engine) : Prop :=
  ∀ frame place ss, Fits depth place ss → Gives place.Allows (engine.exec frame ss)

section Statements

variable (obeys : Obeys depth engine)
include obeys

/-- A loop leads on, except where its body returns. -/
theorem eachItem_allowed {target : Expr} {body : List Stmt}
    (fits : Fits depth (place.under .loop) body) (vs : List Value) :
    Gives (∀ flow ∈ ·, place.Allows flow) (eachItem engine frame target body vs) := by
  induction vs with
  | nil => exact gives_pure fun _ member => (nomatch member)
  | cons v vs ih =>
    refine gives_after fun _ => gives_bind (obeys frame _ body fits) fun flow allowed => ?_
    cases flow with
    | next => exact ih
    | again => exact ih
    | stop => exact gives_pure fun _ member => by cases member; trivial
    | ret v => exact gives_pure fun _ member => by cases member; exact allowed

theorem whileTrue_allowed {test : Expr} {body : List Stmt}
    (fits : Fits depth (place.under .loop) body) (fuel : Nat) :
    Gives (∀ flow ∈ ·, place.Allows flow) (whileTrue engine frame test body fuel) := by
  induction fuel with
  | zero => exact gives_throw _
  | succ fuel ih =>
    refine gives_after fun _ => gives_after fun _ => gives_ite ?_ ?_
    · refine gives_bind (obeys frame _ body fits) fun flow allowed => ?_
      cases flow with
      | next => exact ih
      | again => exact ih
      | stop => exact gives_pure fun _ member => by cases member; trivial
      | ret v => exact gives_pure fun _ member => by cases member; exact allowed
    · exact gives_pure fun _ member => (nomatch member)

/-- What follows a loop that was not left early is run in the place of the loop. -/
theorem afterLoop_allowed {final : List Stmt} (fits : Fits depth place final) :
    ∀ r : Option Flow, (∀ flow ∈ r, place.Allows flow) → Gives place.Allows (match r with
      | some flow => (return flow : Run Flow)
      | none => engine.exec frame final)
  | none, _ => obeys frame place final fits
  | some flow, allowed => gives_pure (allowed flow rfl)

omit obeys in
theorem handling_allowed {x : Nat} {p : Run Flow} (gives : Gives place.Allows p) :
    Gives place.Allows (handling x p) :=
  gives_after fun _ =>
    gives_bind (gives_catching gives fun _ => gives_after fun _ => gives_throw _)
      fun _ allowed => gives_after fun _ => gives_pure allowed

theorem runHandlers_allowed {x : Nat} {handlers : List Handler}
    (fits : ∀ l kind name body, .mk l kind name body ∈ handlers → Fits depth place body) :
    Gives place.Allows (runHandlers engine frame x handlers) := by
  induction handlers with
  | nil => exact gives_throw _
  | cons handler rest ih =>
    obtain ⟨line, kind, name, body⟩ := handler
    have ofBody := obeys frame place body (fits line kind name body (.head _))
    have ofRest := ih fun l kind name body member =>
      fits l kind name body (.tail _ member)
    clear fits ih
    have named (clear : Run Unit) (n : String) : Gives place.Allows (do
        writeName frame n (.ref x)
        let flow ← handling x (catching (engine.exec frame body) fun e => do
          clear
          throw (.raised e))
        clear
        return flow) := by
      refine gives_after fun _ => gives_bind (handling_allowed (gives_catching ofBody ?_)) ?_
      · exact fun _ => gives_after fun _ => gives_throw _
      · exact fun _ allowed => gives_after fun _ => gives_pure allowed
    unfold runHandlers
    refine gives_after fun _ => ?_
    cases kind with
    | none =>
      refine gives_after fun suits => gives_ite ofRest ?_
      cases name with
      | none => exact handling_allowed ofBody
      | some n => exact named _ n
    | some k =>
      refine gives_after fun _ => gives_after fun suits => gives_ite ofRest ?_
      cases name with
      | none => exact handling_allowed ofBody
      | some n => exact named _ n

theorem runGuard_allowed {grouped : Bool} {body : List Stmt} {handlers : List Handler}
    {otherwise final : List Stmt} (ofBody : Fits depth place body)
    (ofHandlers : ∀ l kind name body, .mk l kind name body ∈ handlers → Fits depth place body)
    (ofOtherwise : Fits depth place otherwise) (ofFinal : Fits depth place final) :
    Gives place.Allows (runGuard engine frame grouped body handlers otherwise final) := by
  refine gives_bind (gives_kept (obeys frame place body ofBody)) fun outcome tried => ?_
  refine gives_bind (gives_kept (P := place.Allows) ?_) fun outcome whole => ?_
  · match outcome, tried with
    | .ok .next, _ => exact obeys frame place otherwise ofOtherwise
    | .ok (.ret v), tried => exact gives_pure (tried _ rfl)
    | .ok .stop, tried => exact gives_pure (tried _ rfl)
    | .ok .again, tried => exact gives_pure (tried _ rfl)
    | .error x, _ => exact gives_ite (gives_throwValue _ _ _) (runHandlers_allowed obeys ofHandlers)
  · refine gives_bind (obeys frame place final ofFinal) fun flow allowed => ?_
    cases flow with
    | next =>
      cases outcome with
      | ok flow => exact gives_pure (whole flow rfl)
      | error x => exact gives_throw _
    | ret v => exact gives_pure allowed
    | stop => exact gives_pure allowed
    | again => exact gives_pure allowed

theorem runContexts_allowed {line : Nat} {body : List Stmt} (fits : Fits depth place body)
    (contexts : List (Expr × Option Expr)) :
    Gives place.Allows (runContexts engine frame line body contexts) := by
  induction contexts with
  | nil => exact obeys frame place body fits
  | cons context rest ih =>
    obtain ⟨e, target⟩ := context
    have returns (flow : Flow) (allowed : place.Allows flow) (r : Run Value) :
        Gives place.Allows (r >>= fun _ => return flow) :=
      gives_after fun _ => gives_pure allowed
    have raises (x : Nat) (r : Run Value) : Gives place.Allows (do
        if ← truth engine (← r) then return .next else throw (.raised x)) :=
      gives_after fun _ => gives_after fun _ => gives_ite (gives_pure trivial) (gives_throw _)
    unfold runContexts
    refine gives_after fun manager => gives_after fun _ => gives_after fun enter =>
      gives_after fun leave => ?_
    cases enter with
    | none => exact gives_after fun _ => gives_typeError _
    | some enter =>
      cases leave with
      | none => exact gives_after fun _ => gives_typeError _
      | some leave =>
        refine gives_after fun v => ?_
        cases target with
        | none =>
          exact gives_outcome ih (fun flow allowed => returns flow allowed _)
            fun x => gives_after fun _ => raises x _
        | some t =>
          exact gives_after fun _ => gives_outcome ih (fun flow allowed => returns flow allowed _)
            fun x => gives_after fun _ => raises x _

theorem runCases_allowed {subject : Value} {cases_ : List Case}
    (fits : ∀ shape test body, .mk shape test body ∈ cases_ → Fits depth place body) :
    Gives place.Allows (runCases engine frame subject cases_) := by
  induction cases_ with
  | nil => exact gives_pure trivial
  | cons case_ rest ih =>
    obtain ⟨shape, test, body⟩ := case_
    have ofBody := obeys frame place body (fits shape test body (.head _))
    have ofRest := ih fun s t b member => fits s t b (.tail _ member)
    unfold runCases
    refine gives_after fun found => ?_
    cases found with
    | none => exact ofRest
    | some found =>
      refine gives_after fun _ => ?_
      cases test with
      | none => exact gives_after fun _ => gives_ite ofBody ofRest
      | some e => exact gives_after fun _ => gives_after fun _ => gives_ite ofBody ofRest

/-- One statement leads where its place allows. -/
theorem execStmt_allowed {s : Stmt} (checked : checkStmt (depth + 1) place s = .ok ()) :
    Gives place.Allows (execStmt engine frame s) := by
  unfold execStmt
  cases s with
  | ret line value =>
    cases value with
    | none => exact gives_after fun _ => gives_pure (checked_ret checked)
    | some e => exact gives_after fun _ => gives_pure (checked_ret checked)
  | stop line | next line =>
    unfold checkStmt at checked
    exact gives_pure (checked_leave checked)
  | choose line test yes no =>
    obtain ⟨ofYes, ofNo⟩ := checked_choose checked
    refine gives_after fun _ => gives_after fun _ => ?_
    exact gives_ite (obeys frame place yes ofYes.fits) (obeys frame place no ofNo.fits)
  | each line async target source body final =>
    obtain ⟨ofBody, ofFinal⟩ := checked_each checked
    refine gives_after fun _ => gives_after fun _ => gives_after fun _ => gives_after fun vs => ?_
    exact gives_bind (eachItem_allowed obeys ofBody.fits vs) (afterLoop_allowed obeys ofFinal.fits)
  | loop line test body final =>
    obtain ⟨ofBody, ofFinal⟩ := checked_loop checked
    exact gives_bind (whileTrue_allowed obeys ofBody.fits _) (afterLoop_allowed obeys ofFinal.fits)
  | guard line grouped body handlers otherwise final =>
    obtain ⟨ofBody, ofHandlers, ofOtherwise, ofFinal⟩ := checked_guard checked
    exact runGuard_allowed obeys ofBody ofHandlers ofOtherwise ofFinal.fits
  | «using» line async contexts body =>
    have fits : Fits depth place body := checked_contexts (andThen_ok.mp checked).2
    exact gives_after fun _ => runContexts_allowed obeys fits contexts
  | select line subject cases_ =>
    have ofCases := checked_cases (andThen_ok.mp checked).2
    exact gives_after fun _ => runCases_allowed obeys fun shape test body member =>
      (ofCases shape test body member).fits
  | raise line e cause =>
    cases e with
    | none =>
      refine gives_after fun _ => gives_after fun m => ?_
      split
      · exact gives_throw _
      · exact gives_throwValue _ _ _
    | some e =>
      refine gives_after fun _ => gives_after fun c => gives_after fun _ => gives_after fun x => ?_
      split
      · exact gives_throw _
      · exact gives_after fun _ => gives_throw _
      · exact gives_after fun _ => gives_after fun _ => gives_throw _
  | assert line test message =>
    refine gives_after fun _ => gives_after fun _ => gives_ite (gives_pure trivial) ?_
    exact gives_after fun _ => gives_after fun _ => gives_throwValue _ _ _
  | pass | globals | nonlocals => exact gives_pure trivial
  | expr => exact gives_after fun _ => gives_after fun _ => gives_pure trivial
  | _ => exact gives_after fun _ => gives_pure trivial

/-- Statements in a row lead where their place allows. -/
theorem execAll_allowed {ss : List Stmt} (passes : Passes (depth + 1) place ss) :
    Gives place.Allows (execAll engine frame ss) := by
  induction ss with
  | nil => exact gives_pure trivial
  | cons s ss ih =>
    obtain ⟨ofFirst, ofRest⟩ := List.forall_mem_cons.mp passes
    refine gives_bind (gives_inPlace (execStmt_allowed obeys ofFirst)) fun flow allowed => ?_
    cases flow with
    | next => exact ih ofRest
    | ret v => exact gives_pure allowed
    | stop => exact gives_pure allowed
    | again => exact gives_pure allowed

end Statements

/-- Every engine obeys the check, as long as the check looks deeper than the engine runs. -/
theorem engineOf_obeys {fuel : Nat} (deeper : fuel ≤ depth) : Obeys depth (engineOf fuel) := by
  induction fuel generalizing depth with
  | zero => exact fun _ _ _ _ => gives_throw _
  | succ fuel ih =>
    obtain ⟨depth, rfl⟩ := Nat.exists_eq_add_of_lt deeper
    exact fun frame place ss ⟨inside, narrows, passes⟩ m t flow ran =>
      narrows flow (execAll_allowed (ih (by omega)) passes m t flow ran)

/-- A program that passes the check is run to its end. -/
theorem program_completes {ss : List Stmt} (checked : Check.program ss = .ok ()) :
    Gives (· = .next) (execAll Code.engine frame ss) := by
  obtain ⟨line, -, checked⟩ := bind_ok.mp checked
  have passes : Passes deepest { features := line } ss := forM_ok.mp (andThen_ok.mp checked).2
  have obeys : Obeys 1000000 Code.engine := engineOf_obeys (Nat.le_refl _)
  intro m t flow ran
  have allowed := execAll_allowed obeys passes m t flow ran
  cases flow with
  | next => rfl
  | ret v => exact absurd allowed Bool.false_ne_true
  | stop => exact absurd allowed Bool.false_ne_true
  | again => exact absurd allowed Bool.false_ne_true

end Run

end NestShell.Code

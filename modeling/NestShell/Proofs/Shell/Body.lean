import NestShell.Proofs.Shell.Line

/-!
# Bodies

A body is put together from what a body may do: work at the desk, look at the sessions, hand lines
to the shell, start sessions, release sessions, stop, and go on after a stop. What holds across each
of these operations holds across every body. What the work at the desk may do is left open.
-/

namespace NestShell.Shell

/-- Programs of the operations that a body has; `K` bounds what their work at the desk does. -/
inductive Built (K : Desk → Desk → Prop) (back : Reentry) : {α : Type} → ShellM α → Prop where
  | pure {α : Type} (a : α) : Built K back (Pure.pure a)
  | bind {α β : Type} {p : ShellM α} {f : α → ShellM β} :
      Built K back p → (∀ a, Built K back (f a)) → Built K back (p >>= f)
  | raise {α : Type} (e : Stop) : Built K back (throw e : ShellM α)
  | catching {α : Type} {p : ShellM α} {h : Stop → ShellM α} :
      Built K back p → (∀ e, Built K back (h e)) → Built K back (tryCatch p h)
  | look : Built K back (get : ShellM State)
  | desk {α : Type} (p : DeskM α) : Stays K p → Built K back (ShellM.ofDesk p)
  | run (line : String) : Built K back (back.run line)
  | start (receiver : Code.Value) : Built K back (back.start receiver)
  | release (f : Session) :
      Built K back (modify fun s => { s with stack := s.stack.release f } : ShellM PUnit)

variable {K L : Desk → Desk → Prop} {back : Reentry} {α : Type} {p : ShellM α}

theorem Built.mono (le : ∀ d e, K d e → L d e) (h : Built K back p) : Built L back p := by
  induction h with
  | pure a => exact .pure a
  | bind _ _ first rest => exact .bind first rest
  | raise e => exact .raise e
  | catching _ _ body handler => exact .catching body handler
  | look => exact .look
  | desk p kept => exact .desk p (kept.mono le)
  | run line => exact .run line
  | start receiver => exact .start receiver
  | release f => exact .release f

/-- What holds across the operations holds across a body. -/
theorem Built.stays {R : State → State → Prop} [IsPreorder State R]
    (desk : ∀ {s : State} {d : Desk}, K s.desk d → R s { s with desk := d })
    (release : ∀ (s : State) (f : Session), R s { s with stack := s.stack.release f })
    (run : ∀ line, Stays R (back.run line)) (start : ∀ receiver, Stays R (back.start receiver))
    (h : Built K back p) : Stays R p := by
  induction h with
  | pure a => exact stays_pure a
  | bind _ _ first rest => exact .bind first rest
  | raise e => exact stays_throw e
  | catching _ _ body handler => exact .tryCatch body handler
  | look => exact stays_get
  | desk p kept =>
    refine ⟨fun s => ?_⟩
    rw [ofDesk_apply]
    cases h : p s.desk with
    | ok a d => exact desk (kept.of_ok h)
    | error e d => exact desk (kept.of_error h)
  | run line => exact run line
  | start receiver => exact start receiver
  | release f => exact .modify fun s => release s f

/-- What holds across the operations and across sessions holds across lines and sessions that bodies
start, however deep they nest, and so across every body. -/
theorem stays_reentry {R : State → State → Prop} [Indifferent R] {bodies : Bodies}
    (built : ∀ back ctx, Built K back (bodies back ctx))
    (desk : ∀ {s : State} {d : Desk}, K s.desk d → R s { s with desk := d })
    (release : ∀ (s : State) (f : Session), R s { s with stack := s.stack.release f })
    (start : ∀ perform, (∀ ctx, Stays R (perform ctx)) → ∀ receiver,
      Stays R (startSession perform receiver)) (fuel : Nat) (ctx : Context) :
    Stays R (bodies (reentry bodies fuel) ctx) := by
  induction fuel generalizing ctx with
  | zero =>
    exact (built _ ctx).stays desk release (fun _ => stays_throw _) fun _ => stays_throw _
  | succ fuel ih =>
    exact (built _ ctx).stays desk release (fun line => stays_dispatchWith line) (start _ ih)

/-- The same for bodies with their lines' commands in the journal, which may go together. -/
theorem stays_runBody_reentry {R : State → State → Prop} [KeptClosed R] {bodies : Bodies}
    (runs : ∀ back, (∀ line, Stays R (back.run line)) → (∀ receiver, Stays R (back.start receiver)) →
      ∀ ctx remainder, Stays R (runBody (bodies back) ctx remainder))
    (start : ∀ perform, (∀ ctx remainder, Stays R (runBody perform ctx remainder)) →
      ∀ receiver, Stays R (startSession perform receiver)) (fuel : Nat) (ctx : Context)
    (remainder : String) : Stays R (runBody (bodies (reentry bodies fuel)) ctx remainder) := by
  induction fuel generalizing ctx remainder with
  | zero => exact runs _ (fun _ => stays_throw _) (fun _ => stays_throw _) ctx remainder
  | succ fuel ih =>
    exact runs _ (fun line => stays_dispatchWith line) (start _ ih) ctx remainder

end NestShell.Shell

import NestShell.Code.Value
import NestShell.Text.Quoted
/-!
What a line leads to. A handled line gives a signal: go on, with or without a value to show; go on
at once; or leave sessions down to a level. The other lines name no command or cannot be read.
Signals are also values of the shell's language, and a body that gives such a value gives the signal.
-/
namespace NestShell.Shell

open NestShell.Code

inductive Signal where
  | proceed (value : Option Value)
  | skip
  | breakout (level value : Value)

/-- What a body gives. -/
inductive Reply where
  | value (v : Value)
  | signal (s : Signal)

inductive Outcome where
  | handled (s : Signal)
  | noSuchCommand (line : String)
  | parseFailure (reason command : String)

/-- Goes on and shows a value, unless it is the mark for none. -/
def Signal.showing : Value → Signal
  | .noValue => .proceed none
  | v => .proceed (some v)

/-- The signal that a value is. -/
def Signal.ofValue? : Value → Option Signal
  | .proceed v => some (.showing v)
  | .skip => some .skip
  | .breakout level v => some (.breakout level v)
  | _ => none

/-- The signal of a reply. A value that is a signal stands for it; only a command that keeps its
value has another one to show. -/
def Reply.toSignal (keepsValue : Bool) : Reply → Signal
  | .signal s => s
  | .value v => (Signal.ofValue? v).getD (if keepsValue then .showing v else .proceed none)

/-- A command that keeps no value passes on those that are signals. -/
theorem Reply.toSignal_value (keepsValue : Bool) (v : Value) :
    (Reply.value v).toSignal keepsValue = .proceed none ∨
      (Reply.value v).toSignal keepsValue = (Reply.value v).toSignal true := by
  unfold Reply.toSignal
  dsimp only
  cases Signal.ofValue? v with
  | some s => exact .inr rfl
  | none =>
    cases keepsValue with
    | false => exact .inl rfl
    | true => exact .inr rfl

theorem Signal.showing_ne_breakout (v level value : Value) :
    Signal.showing v ≠ .breakout level value := by
  cases v <;> exact nofun

/-- Only a value that leaves sessions stands for a signal that does. -/
theorem Reply.eq_breakout {keepsValue : Bool} {v level value : Value}
    (h : (Reply.value v).toSignal keepsValue = .breakout level value) : v = .breakout level value := by
  cases v with
  | breakout level' value' =>
    cases h
    rfl
  | proceed w => exact absurd h (Signal.showing_ne_breakout w level value)
  | _ => cases keepsValue <;> cases h

def Reply.nothing : Reply := .value .none

def Reply.skip : Reply := .signal .skip

end NestShell.Shell

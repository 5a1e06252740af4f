import AlertRelay.Value

/-!
# Lengths of time

A length of time as it is configured, in whole seconds or as a fraction, and points of time in
microseconds, to which ends of waits are rounded.
-/

namespace AlertRelay

inductive Seconds where
  | whole (n : Int)
  | fraction (x : Float)

namespace Seconds

def toValue : Seconds → Value
  | whole n => .int n
  | fraction x => .float x

def isNegative : Seconds → Bool
  | whole n => n < 0
  | fraction x => Decimal.isBelowZero x

def display (s : Seconds) : Text := s.toValue.display

def truncate? : Seconds → Option Int
  | whole n => some n
  | fraction x => Decimal.truncate? x

/-- The nearest number of microseconds; none if it never ends. A length below zero is none. -/
def micros? : Seconds → Option Nat
  | whole n => some (n.toNat * 1000000)
  | fraction x =>
    (Decimal.parts? x).map fun p =>
      let (n, d) := Decimal.scale2 (p.mantissa * 1000000) 1 p.exponent
      if p.negative then 0 else Decimal.divRound n d

end Seconds

/-- A point of time: a number of microseconds, or never. -/
inductive Moment where
  | at (micros : Nat)
  | never
  deriving DecidableEq

namespace Moment

def after (m : Moment) (s : Seconds) : Moment :=
  match m, s.micros? with
  | .at n, some k => .at (n + k)
  | _, _ => .never

def le : Moment → Moment → Bool
  | .at m, .at n => m ≤ n
  | .at _, .never => true
  | .never, .at _ => false
  | .never, .never => true

/-- Whether a point of time has come at a moment; the end of a wait without end never has. -/
def hasCome : Moment → Moment → Bool
  | .at m, .at n => m ≤ n
  | _, _ => false

end Moment

end AlertRelay

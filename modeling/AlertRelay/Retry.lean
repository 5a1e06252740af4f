import AlertRelay.Program

/-!
# Retries

An operation that fails is tried again after a fixed delay, a bounded number of times. Every failure
is kept and logged. No delay follows the last failure; that the retries are exhausted is logged
instead.
-/

namespace AlertRelay

structure RetryPolicy where
  maxRetries : Nat := 0
  delay : Seconds := .fraction 5.0

/-- What became of an operation: the number of attempts, every failure in order, and the value of
the attempt that succeeded. -/
structure Retried (α : Type) where
  succeeded : Bool
  attempts : Nat
  errors : List Text
  value : Option α

namespace RetryPolicy

/-- A policy of the given numbers, neither of which may be negative. -/
def ofNumbers (maxRetries : Int) (delay : Seconds) : Except Fault RetryPolicy :=
  if maxRetries < 0 then
    .error ⟨"ValueError", "max_retries must be >= 0, got " ++ toString maxRetries⟩
  else if delay.isNegative then
    .error ⟨"ValueError", "delay_secs must be >= 0, got " ++ delay.display⟩
  else .ok ⟨maxRetries.toNat, delay⟩

def maxAttempts (p : RetryPolicy) : Nat := p.maxRetries + 1

/-- The delay after a failed attempt, counted from one. -/
def delayAfter (p : RetryPolicy) (_attempt : Nat) : Seconds := p.delay

end RetryPolicy

/-- How the attempts of an operation appear in the log: who logs, the name of the operation and
fields that describe it. -/
structure RetryLog where
  logger : Logger := .retry
  event : String := "operation"
  context : List (String × Value) := []

namespace RetryLog

def failed (l : RetryLog) (p : RetryPolicy) (attempt : Nat) (f : Fault) : Program Unit :=
  Program.log .error l.logger (l.event ++ "_failed")
    ([("attempt", .int attempt), ("max_attempts", .int p.maxAttempts), ("error", .text f.reason),
      ("error_type", .text f.kind)] ++ l.context)

def retrying (l : RetryLog) (delay : Seconds) : Program Unit :=
  Program.log .info l.logger (l.event ++ "_retrying") (("delay_secs", delay.toValue) :: l.context)

def exhausted (l : RetryLog) (p : RetryPolicy) : Program Unit :=
  Program.log .error l.logger (l.event ++ "_retries_exhausted")
    (("attempts", .int p.maxAttempts) :: l.context)

end RetryLog

namespace RetryPolicy

variable {α : Type}

/-- The attempts from number `attempt` on, of which `left` may follow it; `errors` holds the earlier
failures. -/
def runFrom (p : RetryPolicy) (l : RetryLog) (operation : Nat → Program α) :
    (left attempt : Nat) → (errors : List Text) → Program (Retried α)
  | left, attempt, errors => do
    match ← (operation attempt).attempt with
    | .ok value => pure ⟨true, attempt, errors, some value⟩
    | .error f =>
      let errors := errors ++ [f.reason]
      l.failed p attempt f
      match left with
      | 0 =>
        l.exhausted p
        pure ⟨false, attempt, errors, none⟩
      | left + 1 =>
        l.retrying (p.delayAfter attempt)
        Program.sleep (p.delayAfter attempt)
        p.runFrom l operation left (attempt + 1) errors

/-- Tries an operation until it succeeds or no attempt is left; it is told the number of the
attempt, counted from one. -/
def run (p : RetryPolicy) (l : RetryLog) (operation : Nat → Program α) : Program (Retried α) :=
  p.runFrom l operation p.maxRetries 1 []

end RetryPolicy

end AlertRelay

import ClusterReady.Duration

/-!
# Why a check or a wait did not succeed

`CheckFailure` is the answer of one evaluation that did not hold, `WaitError` the answer of a
whole wait.  Each is a cause; its wording is in one `message` function.
-/

namespace ClusterReady

/-- Why one evaluation of a predicate did not succeed.  The poll loop retries all of them alike. -/
inductive CheckFailure where
  /-- The state was read and is not the expected one. -/
  | unsatisfied (reason : String)
  /-- The state could not be read. -/
  | read (reason : String)
  /-- The evaluation stopped because the run was cancelled. -/
  | interrupted
deriving DecidableEq, Repr

namespace CheckFailure

def message : CheckFailure → String
  | unsatisfied reason => "condition not met: " ++ reason
  | read reason => "read failed: " ++ reason
  | interrupted => "evaluation interrupted by cancellation"

/-- Whether the state was read and found different. -/
def isMismatch : CheckFailure → Bool
  | unsatisfied _ => true
  | _ => false

end CheckFailure

/-- The answer of one evaluation: success carries nothing. -/
abbrev Verdict := Except CheckFailure Unit

/-- What is wrong with the parameters of a wait. -/
inductive InvalidWait where
  | reversedRange (min max : Nat)
  | zeroInterval
  | timeoutBelowInterval (timeout interval : Duration)
  | timeoutTooLarge (timeout : Duration)
  | noRequiredSuccess
  /-- A fault worded by the caller. -/
  | stated (detail : String)
deriving DecidableEq, Repr

def InvalidWait.message : InvalidWait → String
  | reversedRange min max => s!"range minimum {min} exceeds maximum {max}"
  | zeroInterval => "poll interval must be greater than zero"
  | timeoutBelowInterval timeout interval =>
    "poll timeout " ++ timeout.text ++ " is shorter than interval " ++ interval.text
  | timeoutTooLarge timeout => "poll timeout " ++ timeout.text ++ " is too large"
  | noRequiredSuccess => "required consecutive successes must be at least 1"
  | stated detail => detail

/-- Why a wait ended without success. -/
inductive WaitError where
  | invalid (fault : InvalidWait)
  /-- The deadline passed; `last` is the most recent failure. -/
  | timedOut (description : String) (attempts : Nat) (elapsed : Duration) (last : CheckFailure)
  /-- The run was cancelled; there is no `last` failure when nothing was evaluated. -/
  | cancelled (description : String) (attempts : Nat) (last : Option CheckFailure)
deriving DecidableEq, Repr

namespace WaitError

def message : WaitError → String
  | invalid fault => "invalid wait configuration: " ++ fault.message
  | timedOut description attempts elapsed last =>
    "timed out after " ++ elapsed.text ++ s!" ({attempts} attempts) waiting for " ++ description ++
      ": " ++ last.message
  | cancelled description attempts last =>
    s!"cancelled after {attempts} attempts waiting for " ++ description ++
      (match last with
      | some failure => " (last: " ++ failure.message ++ ")"
      | none => "")

def isCancelled : WaitError → Bool
  | cancelled .. => true
  | _ => false

/-- The number of evaluations made before the wait ended. -/
def attempts : WaitError → Nat
  | invalid _ => 0
  | timedOut _ attempts _ _ => attempts
  | cancelled _ attempts _ => attempts

/-- The failure that the error carries. -/
def last : WaitError → Option CheckFailure
  | invalid _ => none
  | timedOut _ _ _ last => some last
  | cancelled _ _ last => last

end WaitError

end ClusterReady

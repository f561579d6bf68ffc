import ClusterReady.Run.Session
import ClusterReady.Wait.Timing

/-!
# Predicates

A `Predicate` is a repeatable check of external state.  Each evaluation is a run of its own: it may
take time, read what is outside and cancel the run.  The `Token` that an evaluation is given says
whether it hears of a cancellation.

`Predicate.consistently` asks for several successes of a predicate in a row, with a pause after
each but the last.  The first failure ends the streak and is the answer; nothing carries over to
the next evaluation.
-/

namespace ClusterReady

variable {σ : Type}

/-- What an evaluation that waits inside listens to. -/
inductive Token where
  /-- The cancellation of the run. -/
  | run
  /-- Nothing: a token of its own that nobody cancels. -/
  | idle
deriving DecidableEq, Repr

namespace Token

/-- Sleeps until an instant or until the token is cancelled. -/
def doze : Token → Nat → Step σ Clock.Woken
  | run, wake => Step.doze wake
  | idle, wake => do
    Step.sleep wake
    return .onTime

/-- Cancels what the token stands for. -/
def cancel : Token → Step σ Unit
  | run => Step.cancel
  | idle => pure ()

end Token

/-- A repeatable check with a description for the operator. -/
structure Predicate (σ : Type) where
  describe : String
  check : Token → Step σ Verdict

namespace Predicate

/-- The same check under another description, which hears of no cancellation. -/
def sheltered (describe : String) (p : Predicate σ) : Predicate σ where
  describe := describe
  check _ := p.check .idle

end Predicate

/-- Evaluates `p` until it has succeeded `left` times more; the streak is over when it fails or the
token is cancelled in a pause. -/
def streak (p : Predicate σ) (c : ConsistencyConfig) (token : Token) : (left : Nat) → Step σ Verdict
  | 0 => pure (.ok ())
  | left + 1 => do
    match ← p.check token with
    | .error failure => return .error failure
    | .ok () =>
      Step.note (.streakGrew p.describe (c.required - left) c.required)
      if left = 0 then return .ok ()
      else
        match ← token.doze ((← Step.now) + c.delay.nanos) with
        | .cancelled => return .error .interrupted
        | .onTime => streak p c token left

/-- The predicate that holds when `p` does so `c.required` times in a row. -/
def Predicate.consistently (p : Predicate σ) (c : ConsistencyConfig) : Predicate σ where
  describe := p.describe ++ s!" (consistently, {c.required} in a row)"
  check token := streak p c token c.required

end ClusterReady

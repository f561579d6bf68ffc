import ClusterReady.Wait.Failure

/-!
# The timing of a wait

`PollConfig` is the timeout and the interval of a poll loop, `ConsistencyConfig` the number of
successes in a row and the pause between them.  Both can only be made with valid parameters.

The instants of a machine come to an end, and a timeout is refused when the deadline that it would
have from now lies beyond it.  How much time is left is not known here: a `Horizon` is any answer
to the question whether a timeout still fits, the same throughout a run.
-/

namespace ClusterReady

/-- The timeouts whose deadlines are instants of the machine; there is time for five minutes. -/
class Horizon where
  fits : Duration → Bool
  fits_of_le {short long : Duration} (hle : short.nanos ≤ long.nanos) (h : fits long = true) :
    fits short = true
  fits_minutes : fits (.ofSecs 300) = true

/-- The horizon of instants that count seconds in a signed 64-bit number, of which the present one
is past the first. -/
instance Horizon.signed : Horizon where
  fits d := d.nanos < (Duration.ofSecs Int64.maxValue.toInt.toNat).nanos
  fits_of_le hle hlong :=
    decide_eq_true (Nat.lt_of_le_of_lt hle (of_decide_eq_true hlong))
  fits_minutes := by decide

/-- The overall timeout and the tick interval of a poll loop. -/
structure PollConfig where
  timeout : Duration
  interval : Duration
  interval_pos : 0 < interval.nanos
  interval_le : interval.nanos ≤ timeout.nanos

namespace PollConfig

/-- Checks the interval first, then the timeout against it, then the timeout alone. -/
def make [Horizon] (timeout interval : Duration) : Except InvalidWait PollConfig :=
  if hpos : 0 < interval.nanos then
    if hle : interval.nanos ≤ timeout.nanos then
      if Horizon.fits timeout then .ok ⟨timeout, interval, hpos, hle⟩
      else .error (.timeoutTooLarge timeout)
    else .error (.timeoutBelowInterval timeout interval)
  else .error .zeroInterval

/-- Fifteen minutes, with a tick every ten seconds. -/
def standard : PollConfig where
  timeout := .ofSecs 900
  interval := .ofSecs 10
  interval_pos := by decide
  interval_le := by decide

theorem make_eq_ok_iff [Horizon] {timeout interval : Duration} {c : PollConfig} :
    make timeout interval = .ok c ↔
      (c.timeout = timeout ∧ c.interval = interval) ∧ Horizon.fits timeout = true := by
  constructor
  · intro h
    unfold make at h
    split at h
    · split at h
      · split at h
        · rename_i hfits
          cases h
          exact ⟨⟨rfl, rfl⟩, hfits⟩
        · cases h
      · cases h
    · cases h
  · rintro ⟨⟨rfl, rfl⟩, hfits⟩
    simp [make, c.interval_pos, c.interval_le, hfits]

end PollConfig

/-- How many successes in a row a steady condition needs, and the pause between two of them. -/
structure ConsistencyConfig where
  required : Nat
  delay : Duration
  required_pos : 0 < required

namespace ConsistencyConfig

def make (required : Nat) (delay : Duration) : Except InvalidWait ConsistencyConfig :=
  if h : 0 < required then .ok ⟨required, delay, h⟩ else .error .noRequiredSuccess

/-- Three successes, five seconds apart. -/
def standard : ConsistencyConfig where
  required := 3
  delay := .ofSecs 5
  required_pos := by decide

theorem make_eq_ok_iff {required : Nat} {delay : Duration} {c : ConsistencyConfig} :
    make required delay = .ok c ↔ c.required = required ∧ c.delay = delay := by
  constructor
  · intro h
    unfold make at h
    split at h
    · cases h
      exact ⟨rfl, rfl⟩
    · cases h
  · rintro ⟨rfl, rfl⟩
    simp [make, c.required_pos]

end ConsistencyConfig

end ClusterReady

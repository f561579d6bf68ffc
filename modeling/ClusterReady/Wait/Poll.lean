import ClusterReady.Wait.Predicate

/-!
# The poll loop

`pollUntil` evaluates a predicate at a fixed cadence until it holds, its deadline passes or the
run is cancelled.

- The first evaluation is made at once, each later one when an interval has passed since the start
  of the one before, or as soon as that one is over.
- The deadline is `timeout` after the first evaluation.  An evaluation may start at the deadline,
  none starts after it, and one that runs past it is allowed to finish.
- The cancellation is looked at before and after every evaluation and ends every sleep.

The loop ends because an evaluation that is followed by another one starts before the deadline and
the next one starts later (`Tick.again_later`).

A machine may run out of instants, and then it has no deadline for a timeout, or no end for an
interval.  The loop below does not: its instants are natural numbers.  It is that of a machine on
which there is an instant one interval after the deadline, for no later one is ever added up
(`pollCalls_inRange`).
-/

namespace ClusterReady

variable {σ : Type}

/-- What a poll loop that succeeded has seen. -/
structure PollSummary where
  /-- The evaluations made, the successful one included. -/
  attempts : Nat
  elapsed : Duration
deriving DecidableEq, Repr

/-- The answer of a poll loop. -/
abbrev PollResult := Except WaitError PollSummary

/-- The loops warn about a condition that still does not hold at every such attempt. -/
def warnEvery : Nat := 5

/-- How one pass of the loop ended. -/
inductive Tick where
  /-- The loop is over. -/
  | done (result : PollResult)
  /-- The predicate failed and the next pass may start. -/
  | again (failure : CheckFailure)

namespace Tick

/-- Ends the loop because the run is cancelled. -/
def giveUp (describe : String) (attempts : Nat) (last : Option CheckFailure) : Step σ Tick := do
  Step.note (.pollCancelled describe attempts)
  return .done (.error (.cancelled describe attempts last))

/-- Tells of the failure of an attempt: a warning at every fifth, else a detail. -/
def report (describe : String) (start attempt : Nat) (failure : CheckFailure) : Step σ Unit := do
  let elapsed : Duration := ⟨(← Step.now) - start⟩
  if attempt % warnEvery = 0 then Step.note (.stillWaiting describe attempt elapsed failure)
  else Step.note (.conditionNotMet describe attempt failure)

/-- What follows the failure of an attempt that began at `began`: the end of the loop, or a sleep
until the next one. -/
def afterFailure (describe : String) (config : PollConfig) (start began attempt : Nat)
    (failure : CheckFailure) : Step σ Tick := do
  if ← Step.cancelled then giveUp describe attempt (some failure)
  else
    let deadline := start + config.timeout.nanos
    let present ← Step.now
    if deadline ≤ present then
      let elapsed : Duration := ⟨present - start⟩
      Step.note (.gaveUp describe attempt elapsed failure)
      return .done (.error (.timedOut describe attempt elapsed failure))
    else
      match ← Step.doze (min (began + config.interval.nanos) deadline) with
      | .cancelled => giveUp describe attempt (some failure)
      | .onTime => return .again failure

/-- One pass of the loop that started at `start`, after `attempts` evaluations of which `last` was
the most recent failure. -/
def pass (p : Predicate σ) (config : PollConfig) (start attempts : Nat)
    (last : Option CheckFailure) : Step σ Tick := do
  if ← Step.cancelled then giveUp p.describe attempts last
  else
    let began ← Step.now
    match ← p.check .run with
    | .ok () =>
      let elapsed : Duration := ⟨(← Step.now) - start⟩
      Step.note (.conditionMet p.describe (attempts + 1) elapsed)
      return .done (.ok ⟨attempts + 1, elapsed⟩)
    | .error failure =>
      report p.describe start (attempts + 1) failure
      afterFailure p.describe config start began (attempts + 1) failure

theorem giveUp_ne_again {describe : String} {attempts : Nat} {last : Option CheckFailure}
    {s : Session σ} {failure : CheckFailure} :
    (giveUp describe attempts last).value s ≠ .again failure := by
  intro h
  cases h

/-- After a failure another pass follows only before the deadline, and not before `began` and an
interval, or the deadline. -/
theorem afterFailure_again {describe : String} {config : PollConfig} {start began attempt : Nat}
    {failure next : CheckFailure} {s : Session σ}
    (h : (afterFailure describe config start began attempt failure).value s = .again next) :
    s.now < start + config.timeout.nanos ∧
      min (began + config.interval.nanos) (start + config.timeout.nanos) ≤
        ((afterFailure describe config start began attempt failure).final s).now := by
  unfold afterFailure at h ⊢
  by_cases hrun : s.cancelled = true
  · simp only [Run.value_bind, Step.value_cancelled, Step.final_cancelled, hrun, if_true] at h
    exact absurd h giveUp_ne_again
  · by_cases hlate : start + config.timeout.nanos ≤ s.now
    · simp only [Run.value_bind, Step.value_cancelled, Step.final_cancelled, hrun,
        Bool.false_eq_true, Step.value_now, Step.final_now, hlate, ↓reduceIte] at h
      cases h
    · simp only [Run.value_bind, Run.final_bind, Step.value_cancelled, Step.final_cancelled, hrun,
        Bool.false_eq_true, Step.value_now, Step.final_now, hlate, ↓reduceIte, Step.value_doze,
        Step.final_doze] at h ⊢
      refine ⟨Nat.lt_of_not_le hlate, ?_⟩
      cases hwoken : (s.world.clock.doze
          (min (began + config.interval.nanos) (start + config.timeout.nanos))).1 with
      | cancelled =>
        simp only [hwoken] at h
        exact absurd h giveUp_ne_again
      | onTime =>
        simp only [Run.final_pure, Session.now, Session.withClock,
          Clock.now_doze_of_onTime hwoken]
        exact Nat.le_max_right _ _

/-- A pass that leads to another one starts before the deadline and ends later than it started. -/
theorem again_later {p : Predicate σ} {config : PollConfig} {start attempts : Nat}
    {last : Option CheckFailure} {s : Session σ} {failure : CheckFailure}
    (h : (pass p config start attempts last).value s = .again failure) :
    s.now < start + config.timeout.nanos ∧
      s.now < ((pass p config start attempts last).final s).now := by
  unfold pass at h ⊢
  by_cases hrun : s.cancelled = true
  · simp only [Run.value_bind, Step.value_cancelled, Step.final_cancelled, hrun, if_true] at h
    exact absurd h giveUp_ne_again
  · simp only [Run.value_bind, Run.final_bind, Step.value_cancelled, Step.final_cancelled, hrun,
      Bool.false_eq_true, ↓reduceIte, Step.value_now, Step.final_now] at h ⊢
    cases hverdict : (p.check .run).value s with
    | ok _ =>
      simp only [hverdict] at h
      cases h
    | error failed =>
      simp only [hverdict, Run.value_bind, Run.final_bind] at h ⊢
      have hlate := afterFailure_again h
      have hcheck := Session.now_le ((p.check .run).le_final s)
      have hreport := Session.now_le
        ((report p.describe start (attempts + 1) failed).le_final ((p.check .run).final s))
      have hpos := config.interval_pos
      omega

end Tick

/-- Passes of the loop until it is over. -/
def pollFrom (p : Predicate σ) (config : PollConfig) (start attempts : Nat)
    (last : Option CheckFailure) (s : Session σ) : { r : PollResult × Session σ // s ≤ r.2 } :=
  match _hpass : Tick.pass p config start attempts last s with
  | ⟨(.done result, s'), hle⟩ => ⟨(result, s'), hle⟩
  | ⟨(.again failure, s'), hle⟩ =>
    match pollFrom p config start (attempts + 1) (some failure) s' with
    | ⟨r, hle'⟩ => ⟨r, Std.le_trans hle hle'⟩
termination_by start + config.timeout.nanos - s.now
decreasing_by
  have hvalue : (Tick.pass p config start attempts last).value s = .again failure := by
    simp [Run.value, _hpass]
  have hfinal : (Tick.pass p config start attempts last).final s = s' := by
    simp [Run.final, _hpass]
  have := Tick.again_later hvalue
  rw [hfinal] at this
  omega

/-- Polls `p` until it holds, the deadline passes or the run is cancelled. -/
def pollUntil (p : Predicate σ) (config : PollConfig) : Step σ PollResult := do
  let start ← Step.now
  Step.note (.pollStarted p.describe config.timeout config.interval)
  pollFrom p config start 0 none

/-- Polls `p` until it holds so many times in a row; a broken streak does not move the deadline. -/
def pollUntilConsistent (p : Predicate σ) (c : ConsistencyConfig) (config : PollConfig) :
    Step σ PollResult :=
  pollUntil (p.consistently c) config

end ClusterReady

import ClusterReady.Duration

/-!
# What a run measures

Every check that is over leaves one `Measurement`.  The metrics of a run, its counters and the
histogram of its durations, are functions of the list of its measurements in the order in which
they were made.
-/

namespace ClusterReady

/-- How a check that was run has ended. -/
inductive Resolution where
  | passed
  | failed
  | cancelled
deriving DecidableEq, Repr

/-- One finished check. -/
inductive Measurement where
  /-- A check that was run, with its evaluations and the time it took. -/
  | resolved (check : String) (resolution : Resolution) (attempts : Nat) (elapsed : Duration)
  /-- A check that was never started. -/
  | skipped (check : String)
deriving DecidableEq, Repr

namespace Measurement

def check : Measurement → String
  | resolved check .. => check
  | skipped check => check

/-- The name of the outcome in the metrics. -/
def outcome : Measurement → String
  | resolved _ .passed .. => "passed"
  | resolved _ .failed .. => "failed"
  | resolved _ .cancelled .. => "cancelled"
  | skipped _ => "skipped"

/-- The time that a check took, if it was run. -/
def elapsed? : Measurement → Option Duration
  | resolved _ _ _ elapsed => some elapsed
  | skipped _ => none

/-- The evaluations that a check made; a check that was not run has no count. -/
def attempts? : Measurement → Option Nat
  | resolved _ _ attempts _ => some attempts
  | skipped _ => none

end Measurement

namespace Metrics

/-- The number of measurements of a check with an outcome. -/
def checksTotal (ms : List Measurement) (check outcome : String) : Nat :=
  ms.countP fun m => m.check == check && m.outcome == outcome

/-- The measurements of a check. -/
def ofCheck (ms : List Measurement) (check : String) : List Measurement :=
  ms.filter (·.check == check)

/-- The times that a check took, in order. -/
def durations (ms : List Measurement) (check : String) : List Duration :=
  (ofCheck ms check).filterMap Measurement.elapsed?

/-- The evaluations that a check made. -/
def attemptsTotal (ms : List Measurement) (check : String) : Nat :=
  ((ofCheck ms check).filterMap Measurement.attempts?).foldr (· + ·) 0

/-- The upper bounds of the histogram's buckets, in seconds. -/
def bounds : List Nat := [1, 5, 10, 30, 60, 120, 300, 600, 900, 1800]

/-- The number of durations up to a bound, which counts itself. -/
def upTo (bound : Nat) (ds : List Duration) : Nat :=
  ds.countP fun d => d.nanos ≤ (Duration.ofSecs bound).nanos

/-- A duration as a number of seconds. -/
def seconds (d : Duration) : Float :=
  d.secs.toUInt64.toFloat + d.subsecNanos.toUInt64.toFloat / 1000000000.0

/-- The sum of durations, added in their order. -/
def secondsTotal (ds : List Duration) : Float := ds.foldl (fun sum d => sum + seconds d) 0.0

end Metrics

end ClusterReady

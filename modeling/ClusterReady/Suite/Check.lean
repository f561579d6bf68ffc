import ClusterReady.Config.Basic
import ClusterReady.Wait.Poll

/-!
# Checks and reports

A `Check` is a predicate with a name and a way to wait for it.  `Check.run` waits, unless the run
is cancelled already, and turns what comes of it into one `CheckReport`, one measurement and, if
the check was started, an event at its start.  A suite is a success when it has reports and all of
them are of checks that passed.
-/

namespace ClusterReady

variable {σ : Type}

/-- How a check has ended. -/
inductive Outcome where
  | passed (summary : PollSummary)
  | failed (error : String)
  | cancelled (error : String)
  /-- The check was never started. -/
  | skipped (reason : String)
deriving DecidableEq, Repr

namespace Outcome

def isPassed : Outcome → Bool
  | passed _ => true
  | _ => false

def isFailed : Outcome → Bool
  | failed _ => true
  | _ => false

def isCancelled : Outcome → Bool
  | cancelled _ => true
  | _ => false

def isSkipped : Outcome → Bool
  | skipped _ => true
  | _ => false

end Outcome

structure CheckReport where
  name : String
  outcome : Outcome
deriving DecidableEq, Repr

namespace CheckReport

/-- The line of a report in the summary. -/
def event (r : CheckReport) : Event :=
  match r.outcome with
  | .passed summary => .reportedPassed r.name summary.attempts summary.elapsed
  | .failed error => .reportedFailed r.name error
  | .cancelled error => .reportedCancelled r.name error
  | .skipped reason => .reportedSkipped r.name reason

/-- Reports a failure that no wait led to. -/
def fail (name error : String) : Step σ CheckReport := do
  Step.note (.checkFailed name error)
  Step.measure (.resolved name .failed 0 .zero)
  return ⟨name, .failed error⟩

/-- Reports a check that is not started because the run is cancelled. -/
def skip (name : String) : Step σ CheckReport := do
  Step.measure (.skipped name)
  return ⟨name, .skipped "run cancelled"⟩

end CheckReport

/-- The reports of a suite, in the order of its checks. -/
structure SuiteReport where
  provider : Provider
  clusterName : Option String
  checks : List CheckReport
deriving DecidableEq, Repr

namespace SuiteReport

/-- The number of reports whose outcome has a property. -/
def count (r : SuiteReport) (p : Outcome → Bool) : Nat := r.checks.countP fun c => p c.outcome

def passed (r : SuiteReport) : Nat := r.count Outcome.isPassed

def failed (r : SuiteReport) : Nat := r.count Outcome.isFailed

def cancelled (r : SuiteReport) : Nat := r.count Outcome.isCancelled

def skipped (r : SuiteReport) : Nat := r.count Outcome.isSkipped

/-- Whether there are reports and all checks passed. -/
def isSuccess (r : SuiteReport) : Bool :=
  !r.checks.isEmpty && r.passed == r.checks.length

/-- The name of the cluster in events. -/
def shownCluster (clusterName : Option String) : String := clusterName.getD "-"

/-- A line for every report and one for all of them. -/
def summary (r : SuiteReport) : List Event :=
  r.checks.map CheckReport.event ++
    [.suiteFinished r.provider.name (shownCluster r.clusterName) r.passed r.failed r.cancelled
      r.skipped]

/-- Writes events into the journal, in their order. -/
def noteAll : List Event → Step σ Unit
  | [] => pure ()
  | e :: rest => do
    Step.note e
    noteAll rest

/-- Writes the summary into the journal. -/
def logSummary (r : SuiteReport) : Step σ Unit := noteAll r.summary

end SuiteReport

/-- How a predicate is waited for. -/
inductive Strategy where
  | poll (config : PollConfig)
  /-- The predicate has to hold several times in a row. -/
  | consistent (steady : ConsistencyConfig) (config : PollConfig)

structure Check (σ : Type) where
  name : String
  predicate : Predicate σ
  strategy : Strategy

namespace Check

/-- Waits for the predicate as the strategy says. -/
def wait (c : Check σ) : Step σ PollResult :=
  match c.strategy with
  | .poll config => pollUntil c.predicate config
  | .consistent steady config => pollUntilConsistent c.predicate steady config

/-- Reports what came of a wait that began at `start`. -/
def conclude (name : String) (start : Nat) : PollResult → Step σ CheckReport
  | .ok summary => do
    Step.measure (.resolved name .passed summary.attempts summary.elapsed)
    return ⟨name, .passed summary⟩
  | .error e => do
    let elapsed : Duration := ⟨(← Step.now) - start⟩
    if e.isCancelled then
      Step.measure (.resolved name .cancelled e.attempts elapsed)
      Step.note (.checkCancelled name e.message)
      return ⟨name, .cancelled e.message⟩
    else
      Step.measure (.resolved name .failed e.attempts elapsed)
      Step.note (.checkFailed name e.message)
      return ⟨name, .failed e.message⟩

def run (c : Check σ) : Step σ CheckReport := do
  if ← Step.cancelled then CheckReport.skip c.name
  else
    Step.note (.checkStarted c.name c.predicate.describe)
    let start ← Step.now
    conclude c.name start (← c.wait)

/-- Runs checks one after the other. -/
def runAll : List (Check σ) → Step σ (List CheckReport)
  | [] => return []
  | c :: rest => do
    let report ← c.run
    return report :: (← runAll rest)

end Check

end ClusterReady

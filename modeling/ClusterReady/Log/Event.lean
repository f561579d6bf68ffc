import ClusterReady.Wait.Failure

/-!
# The events of a run

An `Event` is one thing that a run tells its operator.  Its level, its message and its named
fields are functions of it, so a statement about a log can speak of the events themselves.

A poll loop tells of its life: it starts `idle`, is `polling` while it evaluates its predicate, and
ends in one of three terminal states.
-/

namespace ClusterReady

inductive PollState where
  | idle
  | polling
  | succeeded
  | timedOut
  | cancelled
deriving DecidableEq, Repr

namespace PollState

def all : List PollState := [idle, polling, succeeded, timedOut, cancelled]

/-- Whether the loop is over. -/
def isTerminal : PollState → Bool
  | succeeded | timedOut | cancelled => true
  | idle | polling => false

def text : PollState → String
  | idle => "Idle"
  | polling => "Polling"
  | succeeded => "Succeeded"
  | timedOut => "TimedOut"
  | cancelled => "Cancelled"

end PollState

/-- How loud an event is, from the finest detail to an error. -/
inductive Level where
  | trace
  | debug
  | info
  | warn
  | error
deriving DecidableEq, Repr

def Level.text : Level → String
  | trace => "TRACE"
  | debug => "DEBUG"
  | info => "INFO"
  | warn => "WARN"
  | error => "ERROR"

/-- The rank of a level; louder levels have the higher one. -/
def Level.rank : Level → Nat
  | trace => 0
  | debug => 1
  | info => 2
  | warn => 3
  | error => 4

/-- The value of an event's field. -/
inductive FieldValue where
  | number (n : Nat)
  | text (s : String)
deriving DecidableEq, Repr

inductive Event where
  | pollStarted (predicate : String) (timeout interval : Duration)
  | conditionMet (predicate : String) (attempts : Nat) (elapsed : Duration)
  | conditionNotMet (predicate : String) (attempt : Nat) (reason : CheckFailure)
  | stillWaiting (predicate : String) (attempt : Nat) (elapsed : Duration) (reason : CheckFailure)
  | gaveUp (predicate : String) (attempts : Nat) (elapsed : Duration) (reason : CheckFailure)
  | pollCancelled (predicate : String) (attempts : Nat)
  | streakGrew (predicate : String) (streak required : Nat)
  | checkStarted (check predicate : String)
  | checkCancelled (check error : String)
  | checkFailed (check error : String)
  | created (action : String)
  | alreadyExists (action : String)
  | deletionRequested (action : String)
  | alreadyDeleted (action : String)
  | storageStarted (scratch : String)
  | suiteStarted (provider cluster : String)
  | reportedPassed (check : String) (attempts : Nat) (elapsed : Duration)
  | reportedFailed (check error : String)
  | reportedCancelled (check error : String)
  | reportedSkipped (check reason : String)
  | suiteFinished (provider cluster : String) (passed failed cancelled skipped : Nat)
  | programStarted
  | configLoaded (provider : String)
  | kubeconfigOpened (path : String)
  | clientConfigured (url : String)
  | allPassed
deriving DecidableEq, Repr

namespace Event

def level : Event → Level
  | streakGrew .. => .trace
  | pollStarted .. | conditionNotMet .. | alreadyExists .. | alreadyDeleted .. => .debug
  | configLoaded .. | kubeconfigOpened .. | clientConfigured .. => .debug
  | conditionMet .. | checkStarted .. | created .. | deletionRequested .. => .info
  | storageStarted .. | suiteStarted .. | reportedPassed .. | suiteFinished .. => .info
  | programStarted | allPassed => .info
  | stillWaiting .. | gaveUp .. | pollCancelled .. | checkCancelled .. => .warn
  | reportedCancelled .. | reportedSkipped .. => .warn
  | checkFailed .. | reportedFailed .. => .error

def message : Event → String
  | pollStarted .. => "Starting poll loop"
  | conditionMet .. => "Condition met"
  | conditionNotMet .. => "Condition not met yet"
  | stillWaiting .. => "Still waiting for condition"
  | gaveUp .. => "Gave up waiting for condition"
  | pollCancelled .. => "Poll loop cancelled"
  | streakGrew .. => "Consistency check passed"
  | checkStarted .. => "Running check"
  | checkCancelled .. => "Check cancelled"
  | checkFailed .. => "Check failed"
  | created .. => "Created"
  | alreadyExists .. => "Already exists"
  | deletionRequested .. => "Deletion requested"
  | alreadyDeleted .. => "Already deleted"
  | storageStarted .. => "Starting storage scenario"
  | suiteStarted .. | programStarted => "Starting cluster e2e suite"
  | reportedPassed .. => "PASSED"
  | reportedFailed .. => "FAILED"
  | reportedCancelled .. => "CANCELLED"
  | reportedSkipped .. => "SKIPPED"
  | suiteFinished .. => "Suite finished"
  | configLoaded .. => "Configuration loaded"
  | kubeconfigOpened .. => "Loading kubeconfig file"
  | clientConfigured .. => "Kubernetes client configured"
  | allPassed => "All checks passed"

/-- The state of the poll loop that an event tells of. -/
def state? : Event → Option PollState
  | pollStarted .. => some .polling
  | conditionMet .. => some .succeeded
  | gaveUp .. => some .timedOut
  | pollCancelled .. => some .cancelled
  | _ => none

/-- The check that an event names. -/
def check? : Event → Option String
  | checkStarted check _ | checkCancelled check _ | checkFailed check _ => some check
  | reportedPassed check .. | reportedFailed check _ => some check
  | reportedCancelled check _ | reportedSkipped check _ => some check
  | _ => none

/-- The fields of an event apart from its state. -/
def details : Event → List (String × FieldValue)
  | pollStarted predicate timeout interval =>
    [("predicate", .text predicate), ("timeout", .text timeout.text),
      ("interval", .text interval.text)]
  | conditionMet predicate attempts elapsed =>
    [("predicate", .text predicate), ("attempts", .number attempts),
      ("elapsed", .text elapsed.text)]
  | conditionNotMet predicate attempt reason =>
    [("predicate", .text predicate), ("attempt", .number attempt),
      ("reason", .text reason.message)]
  | stillWaiting predicate attempt elapsed reason =>
    [("predicate", .text predicate), ("attempt", .number attempt),
      ("elapsed", .text elapsed.text), ("reason", .text reason.message)]
  | gaveUp predicate attempts elapsed reason =>
    [("predicate", .text predicate), ("attempts", .number attempts),
      ("elapsed", .text elapsed.text), ("reason", .text reason.message)]
  | pollCancelled predicate attempts =>
    [("predicate", .text predicate), ("attempts", .number attempts)]
  | streakGrew predicate streak required =>
    [("predicate", .text predicate), ("streak", .number streak), ("required", .number required)]
  | checkStarted check predicate => [("check", .text check), ("predicate", .text predicate)]
  | checkCancelled check error | checkFailed check error =>
    [("check", .text check), ("error", .text error)]
  | created action | alreadyExists action | deletionRequested action | alreadyDeleted action =>
    [("action", .text action)]
  | storageStarted scratch => [("namespace", .text scratch)]
  | suiteStarted provider cluster => [("provider", .text provider), ("cluster", .text cluster)]
  | reportedPassed check attempts elapsed =>
    [("check", .text check), ("attempts", .number attempts), ("elapsed", .text elapsed.text)]
  | reportedFailed check error | reportedCancelled check error =>
    [("check", .text check), ("error", .text error)]
  | reportedSkipped check reason => [("check", .text check), ("reason", .text reason)]
  | suiteFinished provider cluster passed failed cancelled skipped =>
    [("provider", .text provider), ("cluster", .text cluster), ("passed", .number passed),
      ("failed", .number failed), ("cancelled", .number cancelled), ("skipped", .number skipped)]
  | configLoaded provider => [("provider", .text provider)]
  | kubeconfigOpened path => [("path", .text path)]
  | clientConfigured url => [("cluster_url", .text url)]
  | programStarted | allPassed => []

def fields (e : Event) : List (String × FieldValue) :=
  e.details ++ (match e.state? with
    | some state => [("state", .text state.text)]
    | none => [])

end Event

end ClusterReady

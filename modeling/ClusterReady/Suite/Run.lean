import ClusterReady.Suite.Action
import ClusterReady.Suite.Battery

/-!
# Runs of the suite

`runSuite` runs the battery and then, where it is enabled, the storage scenario.  Only a
configuration that gives no valid timing ends it with an error, and then before anything is sent.

In the storage scenario a claim of storage is bound in a scratch namespace and a pod mounts it;
then all of it is deleted.  Once the namespace is created its deletion is attempted, whatever
happens in between.
-/

namespace ClusterReady

variable {σ : Type} [Horizon]

/-- What a suite runs with. -/
structure Context (σ : Type) where
  config : SuiteConfig
  server : Server σ
  /-- Names the scratch namespace. -/
  stamp : Stamp

/-- The stem of the names of scratch namespaces. -/
def scratchStem : String := "e2e"

/-- The name of the scratch namespace. -/
def Context.scratch (c : Context σ) : String := scratchName scratchStem c.stamp

/-- The time that a namespace has to disappear, unless the interval is longer. -/
def namespaceTimeout : Duration := .ofSecs 300

namespace Storage

/-- The timing of the wait for the end of the scratch namespace. -/
def namespacePoll (poll : PollConfig) : Except InvalidConfig PollConfig :=
  (PollConfig.make ⟨max namespaceTimeout.nanos poll.interval.nanos⟩ poll.interval).mapError .wait

/-- The timing of the checks on the probe, and that of the wait for the end of the namespace. -/
def timing (c : SuiteConfig) : Except InvalidConfig (PollConfig × PollConfig) := do
  let poll ← c.poll
  return (poll, ← namespacePoll poll)

def claimCheck (server : Server σ) (scratch : String) (poll : PollConfig) : Check σ :=
  ⟨"storage-pvc-bound", claimBound server scratch Manifest.probeClaim, .poll poll⟩

def podCheck (server : Server σ) (scratch : String) (poll : PollConfig) : Check σ :=
  ⟨"storage-pod-running", podsRunning server scratch Manifest.managedSelector, .poll poll⟩

def claimGoneCheck (server : Server σ) (scratch : String) (poll : PollConfig) : Check σ :=
  ⟨"storage-pvc-deleted",
    resourceDeleted server (Claim.type.within scratch) Claim.type.decoder (·.metadata)
      "PersistentVolumeClaim" Manifest.probeClaim, .poll poll⟩

def namespaceGoneCheck (server : Server σ) (scratch : String) (poll : PollConfig) : Check σ :=
  ⟨"storage-namespace-deleted",
    resourceDeleted server Namespace.type.all Namespace.type.decoder (·.metadata) "Namespace"
      scratch, .poll poll⟩

/-- Runs checks after an action, or reports that the action failed under this name. -/
def afterAction (action : Step σ ActionResult) (name : String) (checks : List (Check σ)) :
    Step σ (List CheckReport) := do
  match ← action with
  | .ok () => Check.runAll checks
  | .error e => return [← CheckReport.fail name e.message]

/-- Creates the probe and waits until it runs. -/
def probeCreation (c : Context σ) (scratch : String) (poll : PollConfig) :
    Step σ (List CheckReport) :=
  afterAction (createProbe c.server scratch c.config.storage.storageClass) "storage-probe-created"
    [claimCheck c.server scratch poll, podCheck c.server scratch poll]

/-- Deletes the probe and waits until its claim is gone. -/
def probeDeletion (c : Context σ) (scratch : String) (poll : PollConfig) :
    Step σ (List CheckReport) :=
  afterAction (deleteProbe c.server scratch) "storage-probe-deleted"
    [claimGoneCheck c.server scratch poll]

/-- Deletes the namespace and waits until it is gone. -/
def namespaceDeletion (c : Context σ) (scratch : String) (poll : PollConfig) :
    Step σ (List CheckReport) :=
  afterAction (deleteNamespace c.server scratch) "storage-namespace-deleted"
    [namespaceGoneCheck c.server scratch poll]

/-- Creates the probe, deletes it and deletes the namespace, with the checks on each step. -/
def inNamespace (c : Context σ) (scratch : String) (poll namespacePoll : PollConfig) :
    Step σ (List CheckReport) := do
  let created ← probeCreation c scratch poll
  let deleted ← probeDeletion c scratch poll
  let gone ← namespaceDeletion c scratch namespacePoll
  return created ++ deleted ++ gone

/-- What follows the attempt to create the namespace. -/
def afterNamespace (c : Context σ) (poll namespacePoll : PollConfig) :
    ActionResult → Step σ (Except InvalidConfig (List CheckReport))
  | .error e => return .ok [← CheckReport.fail "storage-namespace-created" e.message]
  | .ok () => return .ok (← inNamespace c c.scratch poll namespacePoll)

/-- Runs the scenario. -/
def run (c : Context σ) : Step σ (Except InvalidConfig (List CheckReport)) :=
  match timing c.config with
  | .error fault => return .error fault
  | .ok (poll, namespacePoll) => do
    Step.note (.storageStarted c.scratch)
    afterNamespace c poll namespacePoll (← createNamespace c.server c.scratch)

/-- Runs the scenario, unless the run is cancelled before it starts. -/
def runUnlessCancelled (c : Context σ) : Step σ (Except InvalidConfig (List CheckReport)) := do
  if ← Step.cancelled then return .ok [← CheckReport.skip "storage"]
  else run c

end Storage

/-- What follows the battery. -/
def runStorage (c : Context σ) : Step σ (Except InvalidConfig (List CheckReport)) :=
  if c.config.storage.enabled then Storage.runUnlessCancelled c else return .ok []

/-- Runs everything against the cluster behind the server. -/
def runSuite (c : Context σ) : Step σ (Except InvalidConfig SuiteReport) := do
  Step.note (.suiteStarted c.config.provider.name (SuiteReport.shownCluster c.config.clusterName))
  match standardChecks c.server c.config with
  | .error fault => return .error fault
  | .ok checks =>
    let reports ← Check.runAll checks
    match ← runStorage c with
    | .error fault => return .error fault
    | .ok stored => return .ok ⟨c.config.provider, c.config.clusterName, reports ++ stored⟩

end ClusterReady

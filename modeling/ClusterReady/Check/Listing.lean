import ClusterReady.Api.Apps
import ClusterReady.Check.Object
import ClusterReady.Wait.CountRange

/-!
# Checks on lists of objects

Three checks look at all objects that match a selector.

* The number of ready nodes has to lie in a range; where the range is a single number, no other
  node may match the selector.
* Every pod has completed, or it runs and all its containers are ready.  Neither a list without
  pods nor a running pod without containers counts as healthy.
* A workload is ready when at least as many replicas are ready as are desired.  A list without
  workloads is ready: not every cluster runs workloads of all kinds.
-/

namespace ClusterReady

/-- Whether some condition of a node says that it is ready. -/
def Node.isReady (n : Node) : Bool :=
  match n.status with
  | some status =>
    (status.conditions.getD []).any fun c => c.type == "Ready" && c.status == "True"
  | none => false

/-- A length as a count of 32 bits, which stops at its maximum. -/
def countOf (n : Nat) : Nat := min n (UInt32.size - 1)

/-- What an operator is told of nodes whose number is not the expected one. -/
def nodesMismatch (nodes : List Node) (selector : String) (expected : CountRange) : String :=
  let ready := countOf (nodes.filter Node.isReady).length
  let notReady := nodes.filter (!·.isReady)
  s!"{ready}/{countOf nodes.length} nodes matching '" ++ selector ++ "' are Ready, expected " ++
    expected.text ++
    (if notReady.isEmpty then ""
    else " (not ready: " ++
      ", ".intercalate (notReady.map fun n => n.metadata.shownName) ++ ")")

/-- The verdict on the nodes that match a selector. -/
def evaluateNodes (nodes : List Node) (selector : String) (expected : CountRange) : Verdict :=
  let total := countOf nodes.length
  let ready := countOf (nodes.filter Node.isReady).length
  if expected.contains ready && (!expected.isExact || ready == total) then .ok ()
  else .error (.unsatisfied (nodesMismatch nodes selector expected))

/-- The nodes that match a selector are ready, and their number is in the range. -/
def nodesReady {σ : Type} (server : Server σ) (selector : String) (expected : CountRange) :
    Predicate σ where
  describe := expected.text ++ " nodes matching '" ++ selector ++ "' Ready"
  check _ := do
    return Verdict.of (fun l => evaluateNodes l.items selector expected)
      (← server.list Node.type.all Node.type.decoder selector)

namespace Pod

/-- The phase of a pod; without one it is unknown. -/
def phase (p : Pod) : String := (p.status.bind (·.phase)).getD "Unknown"

/-- The states of the containers of a pod. -/
def containers (p : Pod) : List ContainerStatus :=
  (p.status.bind (·.containerStatuses)).getD []

/-- Whether a pod has succeeded, or runs with at least one container and all of them ready. -/
def isHealthy (p : Pod) : Bool :=
  p.phase == "Succeeded" ||
    (p.phase == "Running" && !p.containers.isEmpty && p.containers.all (·.ready))

end Pod

/-- The verdict on the pods that match a selector. -/
def evaluatePods (pods : List Pod) : Verdict :=
  if pods.isEmpty then .error (.unsatisfied "no pods match")
  else
    let unhealthy := pods.filter (!·.isHealthy)
    if unhealthy.isEmpty then .ok ()
    else
      .error (.unsatisfied (s!"{unhealthy.length} of {pods.length} pods not running: " ++
        ", ".intercalate (unhealthy.map fun p => p.metadata.shownName ++ " (" ++ p.phase ++ ")")))

/-- The pods of a namespace that match a selector are running. -/
def podsRunning {σ : Type} (server : Server σ) (scope selector : String) : Predicate σ where
  describe :=
    "pods in " ++ scope ++
      (if selector.isEmpty then "" else " matching '" ++ selector ++ "'") ++ " running"
  check _ := do
    return Verdict.of (fun l => evaluatePods l.items)
      (← server.list (Pod.type.within scope) Pod.type.decoder selector)

inductive WorkloadKind where
  | deployment
  | daemonSet
  | statefulSet
deriving DecidableEq, Repr

namespace WorkloadKind

def all : List WorkloadKind := [deployment, daemonSet, statefulSet]

def name : WorkloadKind → String
  | deployment => "Deployment"
  | daemonSet => "DaemonSet"
  | statefulSet => "StatefulSet"

def decoder : Json.Decoder WorkloadKind := Json.variant (all.map fun k => (k.name, k))

end WorkloadKind

/-- The replicas of a workload, those that are ready and those that are desired. -/
structure Readiness where
  name : String
  desired : Int
  ready : Int
deriving DecidableEq, Repr

namespace Readiness

def isReady (r : Readiness) : Bool := r.desired ≤ r.ready

/-- A workload with the numbers of its replicas. -/
def text (r : Readiness) : String := r.name ++ s!" ({r.ready}/{r.desired})"

end Readiness

/-- One replica is desired where nothing else is said. -/
def Replicated.readiness (w : Replicated) : Readiness where
  name := w.metadata.shownName
  desired := (w.spec.bind (·.replicas)).getD 1
  ready := (w.status.bind (·.readyReplicas)).getD 0

/-- A daemon set desires a replica on each node that it is scheduled on. -/
def DaemonSet.readiness (d : DaemonSet) : Readiness where
  name := d.metadata.shownName
  desired := (d.status.map (·.desiredNumberScheduled)).getD 0
  ready := (d.status.map (·.numberReady)).getD 0

/-- The verdict on the workloads of a kind. -/
def evaluateWorkloads (kind : WorkloadKind) (items : List Readiness) : Verdict :=
  let lagging := items.filter (!·.isReady)
  if lagging.isEmpty then .ok ()
  else
    .error (.unsatisfied (s!"{lagging.length} of {items.length} " ++ kind.name ++ "s not ready: " ++
      ", ".intercalate (lagging.map Readiness.text)))

namespace WorkloadKind

/-- Reads the readiness of a workload of the kind out of its document. -/
def readinessDecoder : WorkloadKind → Json.Decoder Readiness
  | deployment => fun j => (Deployment.type.decoder j).map Replicated.readiness
  | daemonSet => fun j => (DaemonSet.type.decoder j).map DaemonSet.readiness
  | statefulSet => fun j => (StatefulSet.type.decoder j).map Replicated.readiness

/-- The workloads of a kind in a namespace. -/
def collection (kind : WorkloadKind) (scope : String) : Collection :=
  match kind with
  | deployment => Deployment.type.within scope
  | daemonSet => DaemonSet.type.within scope
  | statefulSet => StatefulSet.type.within scope

end WorkloadKind

/-- The workloads of a kind in a namespace that match a selector are ready. -/
def workloadsReady {σ : Type} (server : Server σ) (kind : WorkloadKind) (scope selector : String) :
    Predicate σ where
  describe :=
    kind.name ++ "s in " ++ scope ++
      (if selector.isEmpty then "" else " matching '" ++ selector ++ "'") ++ " ready"
  check _ := do
    return Verdict.of (fun l => evaluateWorkloads kind l.items)
      (← server.list (kind.collection scope) kind.readinessDecoder selector)

end ClusterReady

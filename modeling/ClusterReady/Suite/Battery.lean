import ClusterReady.Check.Object
import ClusterReady.Check.Listing
import ClusterReady.Config.Validate
import ClusterReady.Suite.Check

/-!
# The battery of checks

The checks that only read the cluster, in their order: the nodes of the control plane, where they
can be seen, and the workers; the workloads and pods of the system; the object that stands for the
cluster; the certificates; the metrics API.
-/

namespace ClusterReady

variable {σ : Type} [Horizon]

/-- The type of the condition of an object that is ready. -/
def readyCondition : String := "Ready"

/-- The type of the condition of an API service that is available. -/
def availableCondition : String := "Available"

/-- The API service of the metrics API. -/
def metricsService : String := "v1beta1.metrics.k8s.io"

namespace Battery

/-- The nodes of the control plane are ready, where they are visible and described. -/
def controlPlane (server : Server σ) (c : SuiteConfig) :
    Except InvalidConfig (List (Check σ)) :=
  match c.controlPlane with
  | some pool =>
    if c.provider.hasVisibleControlPlane then do
      let poll ← c.poolPoll pool
      return [⟨"control-plane-nodes-ready",
        nodesReady server pool.controlPlaneSelector pool.count, .poll poll⟩]
    else return []
  | none => return []

/-- The workers are ready. -/
def workers (server : Server σ) (c : SuiteConfig) : Except InvalidConfig (Check σ) := do
  let poll ← c.poolPoll c.workers
  return ⟨"worker-nodes-ready", nodesReady server c.workers.workerSelector c.workers.count,
    .poll poll⟩

/-- The workloads of a kind in the system's namespace stay ready. -/
def systemWorkloads (server : Server σ) (c : SuiteConfig) (strategy : Strategy)
    (kind : WorkloadKind) : Check σ :=
  ⟨"system-" ++ Text.lower kind.name ++ "s-ready",
    workloadsReady server kind c.systemNamespace "", strategy⟩

/-- The pods in the system's namespace stay healthy. -/
def systemPods (server : Server σ) (c : SuiteConfig) (strategy : Strategy) : Check σ :=
  ⟨"system-pods-running", podsRunning server c.systemNamespace "", strategy⟩

/-- The object that stands for the cluster is ready. -/
def clusterResource (server : Server σ) (strategy : Strategy) (r : ClusterResource) : Check σ :=
  ⟨"cluster-resource-ready", conditionStatus server r.target r.scope r.name readyCondition,
    strategy⟩

/-- A certificate is ready. -/
def certificate (server : Server σ) (strategy : Strategy) (n : NamespacedName) : Check σ :=
  ⟨"certificate-" ++ n.scope ++ "-" ++ n.name ++ "-ready",
    conditionStatus server .certificate (some n.scope) n.name readyCondition, strategy⟩

/-- The metrics API is available. -/
def metricsApi (server : Server σ) (strategy : Strategy) : Check σ :=
  ⟨"metrics-api-available",
    conditionStatus server .apiService none metricsService availableCondition, strategy⟩

end Battery

open Battery in
/-- The checks of a configuration that only read. -/
def standardChecks (server : Server σ) (c : SuiteConfig) :
    Except InvalidConfig (List (Check σ)) := do
  let poll ← c.poll
  let steady ← c.steady
  let planes ← controlPlane server c
  let pool ← workers server c
  let lasting : Strategy := .consistent steady poll
  return planes ++ [pool] ++ WorkloadKind.all.map (systemWorkloads server c lasting) ++
    [systemPods server c lasting] ++
    c.clusterResource.toList.map (clusterResource server (.poll poll)) ++
    c.certificates.map (certificate server (.poll poll)) ++
    (if c.metricsApi then [Battery.metricsApi server (.poll poll)] else [])

end ClusterReady

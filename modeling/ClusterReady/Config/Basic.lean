import ClusterReady.Api.Target
import ClusterReady.Wait.CountRange

/-!
# The configuration of a suite

What the cluster under test is expected to look like.  All but the provider and the workers have
a default.

The document of a configuration has all fields, defaults and absent ones too; the fields of a
target stand among those of the resource that has it.
-/

namespace ClusterReady

/-- The infrastructure that a cluster runs on. -/
inductive Provider where
  | aws
  | vsphere
  | cloudDirector
  | azure
  | eks
deriving DecidableEq, Repr

namespace Provider

def name : Provider → String
  | aws => "aws"
  | vsphere => "vsphere"
  | cloudDirector => "cloud-director"
  | azure => "azure"
  | eks => "eks"

def all : List Provider := [aws, vsphere, cloudDirector, azure, eks]

/-- The providers by name. -/
def choices : List (String × Provider) := all.map fun p => (p.name, p)

def decoder : Json.Decoder Provider := Json.variant choices

/-- Whether the nodes of the control plane are registered in the cluster; a managed control plane
does not register them. -/
def hasVisibleControlPlane : Provider → Bool
  | eks => false
  | _ => true

theorem hasVisibleControlPlane_iff {p : Provider} : p.hasVisibleControlPlane = true ↔ p ≠ .eks := by
  cases p <;> decide

end Provider

/-- The timing of the poll loops. -/
structure PollingSettings where
  timeoutSecs : UInt64 := 900
  intervalSecs : UInt64 := 10
deriving DecidableEq, Repr

/-- The window in which a steady condition has to hold. -/
structure ConsistencySettings where
  requiredSuccesses : UInt32 := 3
  delaySecs : UInt64 := 5
deriving DecidableEq, Repr

/-- The expected shape of a pool of nodes. -/
structure NodePool where
  /-- The label selector of the pool's nodes. -/
  selector : Option String := none
  /-- The acceptable numbers of ready nodes. -/
  count : CountRange
  /-- The timeout of this pool, in the place of the general one. -/
  timeoutSecs : Option UInt64 := none
deriving DecidableEq

namespace NodePool

def controlPlaneSelector (p : NodePool) : String :=
  p.selector.getD "node-role.kubernetes.io/control-plane"

def workerSelector (p : NodePool) : String :=
  p.selector.getD "!node-role.kubernetes.io/control-plane"

end NodePool

/-- The object that stands for the cluster in its management cluster. -/
structure ClusterResource where
  target : Target
  scope : Option String := none
  name : String
deriving DecidableEq, Repr

/-- An object by its namespace and its name. -/
structure NamespacedName where
  scope : String
  name : String
deriving DecidableEq, Repr

structure StorageSettings where
  enabled : Bool := true
  /-- The storage class of the probe; the default class of the cluster when there is none. -/
  storageClass : Option String := none
deriving DecidableEq, Repr

structure SuiteConfig where
  provider : Provider
  clusterName : Option String := none
  polling : PollingSettings := {}
  consistency : ConsistencySettings := {}
  controlPlane : Option NodePool := none
  workers : NodePool
  systemNamespace : String := "kube-system"
  clusterResource : Option ClusterResource := none
  certificates : List NamespacedName := []
  /-- Whether the metrics API has to be available. -/
  metricsApi : Bool := true
  storage : StorageSettings := {}
deriving DecidableEq

/-- A text or `null`. -/
def Json.ofText? : Option String → Json
  | some s => .str s
  | none => .null

/-- A number or `null`. -/
def Json.ofSecs? : Option UInt64 → Json
  | some n => .int n.toNat
  | none => .null

def PollingSettings.toJson (p : PollingSettings) : Json :=
  .obj [("timeoutSecs", .int p.timeoutSecs.toNat), ("intervalSecs", .int p.intervalSecs.toNat)]

def ConsistencySettings.toJson (c : ConsistencySettings) : Json :=
  .obj [("requiredSuccesses", .int c.requiredSuccesses.toNat),
    ("delaySecs", .int c.delaySecs.toNat)]

def NodePool.toJson (p : NodePool) : Json :=
  .obj [("selector", .ofText? p.selector), ("count", p.count.toJson),
    ("timeoutSecs", .ofSecs? p.timeoutSecs)]

def ClusterResource.toJson (r : ClusterResource) : Json :=
  .obj (r.target.toFields ++ [("namespace", .ofText? r.scope), ("name", .str r.name)])

def NamespacedName.toJson (n : NamespacedName) : Json :=
  .obj [("namespace", .str n.scope), ("name", .str n.name)]

def StorageSettings.toJson (s : StorageSettings) : Json :=
  .obj [("enabled", .bool s.enabled), ("storageClass", .ofText? s.storageClass)]

/-- The document of a value, or `null`. -/
def Json.ofOption {α : Type} (f : α → Json) : Option α → Json
  | some a => f a
  | none => .null

def SuiteConfig.toJson (c : SuiteConfig) : Json :=
  .obj [("provider", .str c.provider.name), ("clusterName", .ofText? c.clusterName),
    ("polling", c.polling.toJson), ("consistency", c.consistency.toJson),
    ("controlPlane", .ofOption NodePool.toJson c.controlPlane), ("workers", c.workers.toJson),
    ("systemNamespace", .str c.systemNamespace),
    ("clusterResource", .ofOption ClusterResource.toJson c.clusterResource),
    ("certificates", .arr (c.certificates.map NamespacedName.toJson)),
    ("metricsApi", .bool c.metricsApi), ("storage", c.storage.toJson)]

end ClusterReady

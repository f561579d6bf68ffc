import ClusterReady.Api.Resource

/-!
# Objects of the apps group

Deployments, daemon sets and stateful sets, with the numbers of their replicas.
-/

namespace ClusterReady

open Json (Decoder)

/-- How many replicas are desired. -/
structure ReplicaSpec where
  replicas : Option Int := none
deriving DecidableEq, Repr

namespace ReplicaSpec

def fields : List (Json.Field ReplicaSpec) := [
  .optional "replicas" (Json.nullable Json.int32) fun v s => { s with replicas := v }]

end ReplicaSpec

/-- How many replicas are ready. -/
structure ReplicaStatus where
  readyReplicas : Option Int := none
deriving DecidableEq, Repr

namespace ReplicaStatus

def fields : List (Json.Field ReplicaStatus) := [
  .optional "readyReplicas" (Json.nullable Json.int32) fun v s => { s with readyReplicas := v }]

end ReplicaStatus

/-- A workload that says itself how many replicas it should have. -/
abbrev Replicated := ApiObject ReplicaSpec ReplicaStatus

namespace Deployment

def specChecked : List Json.Checked := [
  .of ["minReadySeconds", "progressDeadlineSeconds", "revisionHistoryLimit"] Json.int32,
  .of ["paused"] Json.boolean]

def statusChecked : List Json.Checked := [
  .of ["availableReplicas", "collisionCount", "replicas", "unavailableReplicas",
    "updatedReplicas"] Json.int32,
  .of ["observedGeneration"] Json.int64]

def type : ResourceType Replicated :=
  ApiObject.type ⟨"apps", "v1", "Deployment", "deployments"⟩
    (Json.record "DeploymentSpec" {} ReplicaSpec.fields specChecked)
    (Json.record "DeploymentStatus" {} ReplicaStatus.fields statusChecked)

end Deployment

namespace StatefulSet

def specChecked : List Json.Checked := [
  .of ["minReadySeconds", "revisionHistoryLimit"] Json.int32,
  .of ["podManagementPolicy", "serviceName"] Json.string]

def statusChecked : List Json.Checked := [
  .of ["availableReplicas", "collisionCount", "currentReplicas", "replicas", "updatedReplicas"]
    Json.int32,
  .of ["currentRevision", "updateRevision"] Json.string,
  .of ["observedGeneration"] Json.int64]

def type : ResourceType Replicated :=
  ApiObject.type ⟨"apps", "v1", "StatefulSet", "statefulsets"⟩
    (Json.record "StatefulSetSpec" {} ReplicaSpec.fields specChecked)
    (Json.record "StatefulSetStatus" {} ReplicaStatus.fields statusChecked)

end StatefulSet

structure DaemonSetStatus where
  desiredNumberScheduled : Int := 0
  numberReady : Int := 0
deriving DecidableEq, Repr

namespace DaemonSetStatus

def fields : List (Json.Field DaemonSetStatus) := [
  .optional "desiredNumberScheduled" (Json.nullable Json.int32) fun v s =>
    { s with desiredNumberScheduled := v.getD 0 },
  .optional "numberReady" (Json.nullable Json.int32) fun v s => { s with numberReady := v.getD 0 }]

def checked : List Json.Checked := [
  .of ["collisionCount", "currentNumberScheduled", "numberAvailable", "numberMisscheduled",
    "numberUnavailable", "updatedNumberScheduled"] Json.int32,
  .of ["observedGeneration"] Json.int64]

end DaemonSetStatus

abbrev DaemonSet := ApiObject Unit DaemonSetStatus

namespace DaemonSet

def specDecoder : Decoder Unit :=
  Json.record "DaemonSetSpec" () [] [.of ["minReadySeconds", "revisionHistoryLimit"] Json.int32]

def type : ResourceType DaemonSet :=
  ApiObject.type ⟨"apps", "v1", "DaemonSet", "daemonsets"⟩ specDecoder
    (Json.record "DaemonSetStatus" {} DaemonSetStatus.fields DaemonSetStatus.checked)

end DaemonSet

end ClusterReady

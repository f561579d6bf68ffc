import ClusterReady.Api.Resource

/-!
# Objects of the core group

Nodes, pods, namespaces and persistent volume claims, with what the checks read of them.  What is
missing or `null` in a document is absent, or the default of its type.  Of the specifications only
the form is looked at.
-/

namespace ClusterReady

open Json (Decoder)

/-- A condition that a node reports. -/
structure NodeCondition where
  type : String := ""
  status : String := ""
deriving DecidableEq, Repr

namespace NodeCondition

def fields : List (Json.Field NodeCondition) := [
  .optional "type" (Json.nullable Json.string) fun v c => { c with type := v.getD "" },
  .optional "status" (Json.nullable Json.string) fun v c => { c with status := v.getD "" }]

def decoder : Decoder NodeCondition :=
  Json.record "NodeCondition" {} fields [
    .of ["reason", "message"] Json.string,
    .of ["lastHeartbeatTime", "lastTransitionTime"] Timestamp.decoder]

end NodeCondition

structure NodeStatus where
  conditions : Option (List NodeCondition) := none
deriving DecidableEq, Repr

namespace NodeStatus

def fields : List (Json.Field NodeStatus) := [
  .optional "conditions" (Json.nullable (Json.listOf NodeCondition.decoder)) fun v s =>
    { s with conditions := v }]

def decoder : Decoder NodeStatus :=
  Json.record "NodeStatus" {} fields [
    .of ["phase"] Json.string,
    .of ["volumesInUse"] (Json.listOf Json.string)]

end NodeStatus

abbrev Node := ApiObject Unit NodeStatus

namespace Node

def specDecoder : Decoder Unit :=
  Json.record "NodeSpec" () [] [
    .of ["externalID", "podCIDR", "providerID"] Json.string,
    .of ["podCIDRs"] (Json.listOf Json.string),
    .of ["unschedulable"] Json.boolean]

def type : ResourceType Node :=
  ApiObject.type ⟨"", "v1", "Node", "nodes"⟩ specDecoder NodeStatus.decoder

end Node

structure ContainerStatus where
  ready : Bool := false
deriving DecidableEq, Repr

namespace ContainerStatus

def decoder : Decoder ContainerStatus :=
  Json.record "ContainerStatus" {} [
    .optional "ready" (Json.nullable Json.boolean) fun v c => { c with ready := v.getD false }] [
    .of ["containerID", "image", "imageID", "name"] Json.string,
    .of ["restartCount"] Json.int32,
    .of ["started"] Json.boolean]

end ContainerStatus

structure PodStatus where
  phase : Option String := none
  containerStatuses : Option (List ContainerStatus) := none
deriving DecidableEq, Repr

namespace PodStatus

def decoder : Decoder PodStatus :=
  Json.record "PodStatus" {} [
    .optional "phase" (Json.nullable Json.string) fun v s => { s with phase := v },
    .optional "containerStatuses" (Json.nullable (Json.listOf ContainerStatus.decoder)) fun v s =>
      { s with containerStatuses := v }] [
    .of ["initContainerStatuses", "ephemeralContainerStatuses"]
      (Json.listOf ContainerStatus.decoder),
    .of ["hostIP", "message", "nominatedNodeName", "podIP", "qosClass", "reason", "resize"]
      Json.string,
    .of ["startTime"] Timestamp.decoder]

end PodStatus

abbrev Pod := ApiObject Unit PodStatus

namespace Pod

def specDecoder : Decoder Unit :=
  Json.record "PodSpec" () [] [
    .of ["nodeName", "restartPolicy", "schedulerName", "serviceAccountName", "hostname"]
      Json.string,
    .of ["terminationGracePeriodSeconds", "activeDeadlineSeconds"] Json.int64,
    .of ["priority"] Json.int32,
    .of ["hostNetwork", "hostPID", "hostIPC"] Json.boolean]

def type : ResourceType Pod :=
  ApiObject.type ⟨"", "v1", "Pod", "pods"⟩ specDecoder PodStatus.decoder

end Pod

abbrev Namespace := ApiObject Unit Unit

namespace Namespace

def specDecoder : Decoder Unit :=
  Json.record "NamespaceSpec" () [] [.of ["finalizers"] (Json.listOf Json.string)]

def statusDecoder : Decoder Unit :=
  Json.record "NamespaceStatus" () [] [.of ["phase"] Json.string]

def type : ResourceType Namespace :=
  ApiObject.type ⟨"", "v1", "Namespace", "namespaces"⟩ specDecoder statusDecoder

end Namespace

structure ClaimStatus where
  phase : Option String := none
deriving DecidableEq, Repr

namespace ClaimStatus

def decoder : Decoder ClaimStatus :=
  Json.record "PersistentVolumeClaimStatus" {} [
    .optional "phase" (Json.nullable Json.string) fun v s => { s with phase := v }] [
    .of ["accessModes"] (Json.listOf Json.string),
    .of ["currentVolumeAttributesClassName"] Json.string]

end ClaimStatus

/-- A persistent volume claim. -/
abbrev Claim := ApiObject Unit ClaimStatus

namespace Claim

def specDecoder : Decoder Unit :=
  Json.record "PersistentVolumeClaimSpec" () [] [
    .of ["accessModes"] (Json.listOf Json.string),
    .of ["storageClassName", "volumeAttributesClassName", "volumeMode", "volumeName"] Json.string]

def type : ResourceType Claim :=
  ApiObject.type ⟨"", "v1", "PersistentVolumeClaim", "persistentvolumeclaims"⟩ specDecoder
    ClaimStatus.decoder

end Claim

end ClusterReady

import ClusterReady.Config.Basic
import ClusterReady.Yaml.Decode

/-!
# Reading configurations

`SuiteConfig.decoder` reads a configuration out of the tree of a YAML document.
-/

namespace ClusterReady

open Yaml (Decoder)

namespace CountRange

/-- The two ends of a range; that they are in order is a matter of the record around it. -/
def yamlDecoder : Decoder CountRange := fun path n => do
  let (min, max) ← Yaml.record "RawCountRange" ((0, 0) : Nat × Nat) [
    .required "min" Yaml.word32 fun v r => (v, r.2),
    .required "max" Yaml.word32 fun v r => (r.1, v)] path n
  (make min.toUInt32 max.toUInt32).mapError fun fault =>
    ⟨none, .refused (WaitError.invalid fault).message⟩

end CountRange

/-- A number of seconds. -/
def Yaml.seconds : Decoder UInt64 := fun path n => (Yaml.word64 path n).map Nat.toUInt64

namespace PollingSettings

def decoder : Decoder PollingSettings :=
  Yaml.record "PollingSettings" {} [
    .optional "timeoutSecs" Yaml.seconds fun v p => { p with timeoutSecs := v },
    .optional "intervalSecs" Yaml.seconds fun v p => { p with intervalSecs := v }]

end PollingSettings

namespace ConsistencySettings

def decoder : Decoder ConsistencySettings :=
  Yaml.record "ConsistencySettings" {} [
    .optional "requiredSuccesses" Yaml.word32 fun v c =>
      { c with requiredSuccesses := v.toUInt32 },
    .optional "delaySecs" Yaml.seconds fun v c => { c with delaySecs := v }]

end ConsistencySettings

namespace NodePool

/-- A pool whose count is not known yet. -/
def unread : NodePool := { count := .exact 0 }

def decoder : Decoder NodePool :=
  Yaml.record "NodePoolSettings" unread [
    .optional "selector" (Yaml.nullable Yaml.string) fun v p => { p with selector := v },
    .required "count" CountRange.yamlDecoder fun v p => { p with count := v },
    .optional "timeoutSecs" (Yaml.nullable Yaml.seconds) fun v p => { p with timeoutSecs := v }]

end NodePool

namespace ClusterResource

/-- A resource as far as it has been read; the entries that may be its target's wait until the
end, latest first. -/
structure Draft where
  scope : Option String := none
  name : String := ""
  others : List (String × Yaml.Node) := []

/-- A text of a target, which unlike other texts must not look like anything else. -/
def targetText (path : String) (n : Yaml.Node) : Except Yaml.Fault String := do
  match ← Yaml.kept (Yaml.depthLimit - 2) path n with
  | .str s => return s
  | found => .error ⟨none, .invalidType found "a string"⟩

/-- A text of a target that may be nothing. -/
def targetText? (path : String) (n : Yaml.Node) : Except Yaml.Fault (Option String) := do
  match ← Yaml.kept (Yaml.depthLimit - 2) path n with
  | .unit => return none
  | .str s => return some s
  | found => .error ⟨none, .invalidType found "a string"⟩

def targetFields : List (Yaml.Field Target) := [
  .optional "group" targetText fun v t => { t with group := v },
  .required "version" targetText fun v t => { t with version := v },
  .required "kind" targetText fun v t => { t with kind := v },
  .optional "plural" targetText? fun v t => { t with plural := v }]

/-- The target in the entries that were kept. -/
def targetOf (path : String) (others : List (String × Yaml.Node)) : Except Yaml.Fault Target :=
  Yaml.eachEntry targetFields (fun _ t _ _ => .ok t) path {} []
    (others.map fun (name, n) => (.scalar name .quoted none, n))

/-- The fields of a resource that are not its target's. -/
def ownFields : List (Yaml.Field Draft) := [
  .optional "namespace" (Yaml.nullable Yaml.string) fun v d => { d with scope := v },
  .required "name" Yaml.string fun v d => { d with name := v }]

/-- Keeps an entry that may be the target's. -/
def keepOther (name : String) (d : Draft) : Decoder Draft := fun path n => do
  let _ ← Yaml.kept (Yaml.depthLimit - 2) path n
  return { d with others := (name, n) :: d.others }

def decoder : Decoder ClusterResource := fun path n => do
  let entries ← Yaml.entries "struct ClusterResourceSettings" path n
  let draft ← Yaml.eachEntry ownFields keepOther path {} [] entries
  let target ← targetOf path draft.others.reverse
  return { target, scope := draft.scope, name := draft.name }

end ClusterResource

namespace NamespacedName

def decoder : Decoder NamespacedName :=
  Yaml.record "NamespacedName" ⟨"", ""⟩ [
    .required "namespace" Yaml.string fun v n => { n with scope := v },
    .required "name" Yaml.string fun v n => { n with name := v }]

end NamespacedName

namespace StorageSettings

def decoder : Decoder StorageSettings :=
  Yaml.record "StorageSettings" {} [
    .optional "enabled" Yaml.boolean fun v s => { s with enabled := v },
    .optional "storageClass" (Yaml.nullable Yaml.string) fun v s => { s with storageClass := v }]

end StorageSettings

namespace SuiteConfig

/-- A configuration whose provider and workers are not known yet. -/
def unread : SuiteConfig := { provider := .aws, workers := .unread }

def fields : List (Yaml.Field SuiteConfig) := [
  .required "provider" (Yaml.variant Provider.choices) fun v c => { c with provider := v },
  .optional "clusterName" (Yaml.nullable Yaml.string) fun v c => { c with clusterName := v },
  .optional "polling" PollingSettings.decoder fun v c => { c with polling := v },
  .optional "consistency" ConsistencySettings.decoder fun v c => { c with consistency := v },
  .optional "controlPlane" (Yaml.nullable NodePool.decoder) fun v c => { c with controlPlane := v },
  .required "workers" NodePool.decoder fun v c => { c with workers := v },
  .optional "systemNamespace" Yaml.string fun v c => { c with systemNamespace := v },
  .optional "clusterResource" (Yaml.nullable ClusterResource.decoder) fun v c =>
    { c with clusterResource := v },
  .optional "certificates" (Yaml.listOf NamespacedName.decoder) fun v c =>
    { c with certificates := v },
  .optional "metricsApi" Yaml.boolean fun v c => { c with metricsApi := v },
  .optional "storage" StorageSettings.decoder fun v c => { c with storage := v }]

def decoder : Decoder SuiteConfig := Yaml.record "SuiteConfig" unread fields

end SuiteConfig

end ClusterReady

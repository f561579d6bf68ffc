import ClusterReady.Api.Resource
import ClusterReady.Text.Characters

/-!
# Targets

A `Target` names a kind of objects that the suite has no type for.  Its plural, unless it is
given, is the lower case of the kind and an `s`.
-/

namespace ClusterReady

open Json (Decoder)

structure Target where
  /-- The API group, empty for the core group. -/
  group : String := ""
  version : String := ""
  kind : String := ""
  plural : Option String := none
deriving DecidableEq, Repr

namespace Target

/-- The plural in paths. -/
def pluralName (t : Target) : String := t.plural.getD (Text.lower t.kind ++ "s")

def resource (t : Target) : ResourceId := ⟨t.group, t.version, t.kind, t.pluralName⟩

/-- The objects of a target, in a namespace when one is given. -/
def collection (t : Target) (scope : Option String) : Collection := ⟨t.resource, scope⟩

/-- Clusters of the cluster API. -/
def cluster : Target := { group := "cluster.x-k8s.io", version := "v1beta1", kind := "Cluster" }

/-- Certificates of the certificate manager. -/
def certificate : Target := { group := "cert-manager.io", version := "v1", kind := "Certificate" }

/-- Aggregated API services. -/
def apiService : Target :=
  { group := "apiregistration.k8s.io", version := "v1", kind := "APIService" }

/-- The fields of a target as a JSON object; a plural that is not set is left out. -/
def toFields (t : Target) : List (String × Json) :=
  [("group", .str t.group), ("version", .str t.version), ("kind", .str t.kind)] ++
    (match t.plural with
    | some plural => [("plural", .str plural)]
    | none => [])

def toJson (t : Target) : Json := .obj t.toFields

def decoder : Decoder Target :=
  Json.fixedRecord "Target" {} [
    .optional "group" Json.string fun v t => { t with group := v },
    .required "version" Json.string fun v t => { t with version := v },
    .required "kind" Json.string fun v t => { t with kind := v },
    .optional "plural" (Json.nullable Json.string) fun v t => { t with plural := v }]

end Target

end ClusterReady

import ClusterReady.Api.Meta

/-!
# Resources of the API

A `ResourceType` names a kind of objects with its group, version and plural, and reads one of them
from a document.  A `Collection` is where objects of a kind are found: in a namespace, or in the
whole cluster.

An `ApiObject` has metadata, and a specification and a status that depend on its kind.  A
`DynamicObject` is of any kind and keeps all of its document but the metadata.  An
`ObjectList` is the answer to a list request.
-/

namespace ClusterReady

open Json (Decoder)

/-- A kind of objects, under the names that the API has for it. -/
structure ResourceId where
  group : String
  version : String
  kind : String
  plural : String
deriving DecidableEq, Repr

namespace ResourceId

/-- The version with its group; the core group has no name. -/
def apiVersion (r : ResourceId) : String :=
  if r.group.isEmpty then r.version else r.group ++ "/" ++ r.version

end ResourceId

/-- The objects of a kind in a namespace, or in the whole cluster. -/
structure Collection where
  resource : ResourceId
  scope : Option String
deriving DecidableEq, Repr

namespace Collection

/-- The path of a collection. -/
def path (c : Collection) : String :=
  (if c.resource.group.isEmpty then "/api/" else "/apis/") ++ c.resource.apiVersion ++ "/" ++
    (match c.scope with
    | some name => "namespaces/" ++ name ++ "/"
    | none => "") ++ c.resource.plural

/-- The path of one object. -/
def objectPath (c : Collection) (name : String) : String := c.path ++ "/" ++ name

end Collection

/-- A kind of objects with the way to read one. -/
structure ResourceType (α : Type) where
  id : ResourceId
  decoder : Decoder α

namespace ResourceType

variable {α : Type}

/-- The objects of this kind in a namespace. -/
def within (r : ResourceType α) (scope : String) : Collection := ⟨r.id, some scope⟩

/-- The objects of this kind in the whole cluster. -/
def all (r : ResourceType α) : Collection := ⟨r.id, none⟩

end ResourceType

/-- A name that has to be the given one. -/
def exactly (name : String) : Decoder Unit := fun j => do
  let found ← Json.string j
  if found = name then return () else .error (.invalidValue (.str found) name)

/-- An object with the specification and the status of its kind. -/
structure ApiObject (Spec Status : Type) where
  metadata : ObjectMeta := {}
  spec : Option Spec := none
  status : Option Status := none
deriving DecidableEq, Repr

namespace ApiObject

variable {Spec Status : Type}

def fields (spec : Decoder Spec) (status : Decoder Status) :
    List (Json.Field (ApiObject Spec Status)) := [
  .optional "metadata" (Json.nullable ObjectMeta.decoder) fun v o =>
    { o with metadata := v.getD {} },
  .optional "spec" (Json.nullable spec) fun v o => { o with spec := v },
  .optional "status" (Json.nullable status) fun v o => { o with status := v }]

/-- The objects of a kind; where one says its own kind and version, these are right. -/
def type (id : ResourceId) (spec : Decoder Spec) (status : Decoder Status) :
    ResourceType (ApiObject Spec Status) where
  id := id
  decoder := Json.record id.kind {} (fields spec status)
    [⟨["apiVersion"], exactly id.apiVersion⟩, ⟨["kind"], exactly id.kind⟩]

end ApiObject

/-- An object of any kind, with its document. -/
structure DynamicObject where
  metadata : ObjectMeta := {}
  fields : List (String × Json) := []

namespace DynamicObject

/-- The document of an object without its metadata. -/
def data (o : DynamicObject) : Json := .obj o.fields

/-- Keeps an entry that is not the metadata. -/
def keep (name : String) (o : DynamicObject) : Decoder DynamicObject := fun j => do
  return { o with fields := o.fields ++ [(name, ← Json.anyValue (Json.depthLimit - 1) j)] }

def decoder : Decoder DynamicObject :=
  Json.openRecord "DynamicObject" {} [
    .optional "metadata" ObjectMeta.decoder fun v o => { o with metadata := v }] keep

end DynamicObject

/-- The objects that match a list request. -/
structure ObjectList (α : Type) where
  metadata : ListMeta := {}
  items : List α := []

namespace ObjectList

variable {α : Type}

def decoder (d : Decoder α) : Decoder (ObjectList α) :=
  Json.openRecord "ObjectList" {} [
    .optional "metadata" ListMeta.decoder fun v l => { l with metadata := v },
    .required "items" (Json.orDefault [] (Json.listOf d)) fun v l => { l with items := v }]
    fun _ l j => (Json.anyValue (Json.depthLimit - 1) j).map fun _ => l

end ObjectList

end ClusterReady

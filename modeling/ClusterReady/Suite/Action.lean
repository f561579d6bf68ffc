import ClusterReady.Api.Client
import ClusterReady.Api.Core
import ClusterReady.Text.Characters

/-!
# Actions

An action creates or deletes objects, once.  To create what exists already and to delete what is
gone counts as done, so what an earlier run left behind does not matter.  Of several steps the
first that is refused ends the action.

The suite creates a scratch namespace, and in it a claim of storage and a pod that mounts it.  The
namespace is named after the process that creates it and the moment at which it does, and all of
them carry a label that says who manages them.
-/

namespace ClusterReady

/-- A process and a moment of the day, in milliseconds since midnight. -/
structure Stamp where
  process : UInt32
  moment : Fin 86400000
deriving DecidableEq, Repr

namespace Stamp

/-- A number with zeros in front, `width` digits long at least. -/
def padded (width n : Nat) : String :=
  let digits := Nat.toDigits 10 n
  String.ofList (List.replicate (width - digits.length) '0' ++ digits)

/-- The hours, minutes, seconds and milliseconds of the moment, with nothing between them. -/
def clockText (s : Stamp) : String :=
  let millis := s.moment.val
  padded 2 (millis / 3600000) ++ padded 2 (millis / 60000 % 60) ++
    padded 2 (millis / 1000 % 60) ++ padded 3 (millis % 1000)

def text (s : Stamp) : String := toString s.process.toNat ++ "-" ++ s.clockText

end Stamp

/-- The greatest length of a namespace's name. -/
def longestLabel : Nat := 63

/-- A character that a scratch name keeps. -/
def isLabelChar (c : Char) : Bool := c.isAlphanum || c == '-'

/-- A text without the dashes at both of its ends. -/
def trimDashes (cs : List Char) : List Char :=
  ((cs.dropWhile (· == '-')).reverse.dropWhile (· == '-')).reverse

/-- The name of a scratch namespace: a stem in lower case and the stamp, without the characters
that a name cannot hold, cut to the greatest length and then trimmed. -/
def scratchName (stem : String) (s : Stamp) : String :=
  let kept := (Text.lower stem ++ "-" ++ s.text).toList.filter isLabelChar
  String.ofList (trimDashes (kept.take longestLabel))

namespace Manifest

/-- The key of the label on everything that the suite creates. -/
def managerKey : String := "app.kubernetes.io/managed-by"

/-- The value of that label. -/
def manager : String := "cluster-e2e"

/-- Selects what the suite has created. -/
def managedSelector : String := managerKey ++ "=" ++ manager

/-- An object with a name and the label. -/
def object (id : ResourceId) (name : String) (rest : List (String × Json)) : Json :=
  .obj ([("apiVersion", .str id.apiVersion), ("kind", .str id.kind),
    ("metadata", .obj [("labels", .obj [(managerKey, .str manager)]), ("name", .str name)])] ++
    rest)

def scratchNamespace (name : String) : Json := object Namespace.type.id name []

/-- The name of the probe's claim. -/
def probeClaim : String := "storage-probe"

/-- The name of the probe's pod. -/
def probePod : String := "storage-probe"

/-- The claim of the probe; without a storage class it takes the default of the cluster. -/
def claim (storageClass : Option String) : Json :=
  object Claim.type.id probeClaim [("spec", .obj ([
    ("accessModes", .arr [.str "ReadWriteOnce"]),
    ("resources", .obj [("requests", .obj [("storage", .str "1Gi")])])] ++
    (match storageClass with
    | some name => [("storageClassName", .str name)]
    | none => [])))]

/-- The container of the probe, which writes to the volume and then sleeps. -/
def container : Json :=
  .obj [("command", .arr [.str "sh", .str "-c", .str "echo ok > /data/probe && sleep 3600"]),
    ("image", .str "busybox:1.36"), ("name", .str "probe"),
    ("volumeMounts", .arr [.obj [("mountPath", .str "/data"), ("name", .str "data")]])]

/-- The pod of the probe, which mounts the claim. -/
def pod : Json :=
  object Pod.type.id probePod [("spec", .obj [("containers", .arr [container]),
    ("restartPolicy", .str "Never"),
    ("volumes", .arr [.obj [("name", .str "data"),
      ("persistentVolumeClaim", .obj [("claimName", .str probeClaim)])]])])]

end Manifest

variable {σ α : Type}

/-- Why an action is not done. -/
structure ActionError where
  action : String
  cause : ClientError
deriving DecidableEq, Repr

def ActionError.message (e : ActionError) : String :=
  "failed to " ++ e.action ++ ": " ++ e.cause.text

/-- The answer of an action. -/
abbrev ActionResult := Except ActionError Unit

/-- Creates an object. -/
def createObject (server : Server σ) (t : ResourceType α) (scope : Option String) (manifest : Json)
    (action : String) : Step σ ActionResult := do
  match ← server.create ⟨t.id, scope⟩ t.decoder manifest with
  | .ok _ =>
    Step.note (.created action)
    return .ok ()
  | .error cause =>
    if cause.isConflict then
      Step.note (.alreadyExists action)
      return .ok ()
    else return .error ⟨action, cause⟩

/-- Deletes an object. -/
def deleteObject (server : Server σ) (t : ResourceType α) (scope : Option String) (name : String)
    (immediate : Bool) (action : String) : Step σ ActionResult := do
  match ← server.delete ⟨t.id, scope⟩ t.decoder name immediate with
  | .ok _ =>
    Step.note (.deletionRequested action)
    return .ok ()
  | .error cause =>
    if cause.isNotFound then
      Step.note (.alreadyDeleted action)
      return .ok ()
    else return .error ⟨action, cause⟩

/-- One action and, when it is done, another. -/
def bothDone (first second : Step σ ActionResult) : Step σ ActionResult := do
  match ← first with
  | .ok () => second
  | .error e => return .error e

def createNamespace (server : Server σ) (name : String) : Step σ ActionResult :=
  createObject server Namespace.type none (Manifest.scratchNamespace name)
    ("create namespace " ++ name)

def deleteNamespace (server : Server σ) (name : String) : Step σ ActionResult :=
  deleteObject server Namespace.type none name false ("delete namespace " ++ name)

/-- Creates the claim of the probe. -/
def createClaim (server : Server σ) (scope : String) (storageClass : Option String) :
    Step σ ActionResult :=
  createObject server Claim.type (some scope) (Manifest.claim storageClass)
    ("create PVC " ++ scope ++ "/" ++ Manifest.probeClaim)

/-- Creates the pod of the probe. -/
def createPod (server : Server σ) (scope : String) : Step σ ActionResult :=
  createObject server Pod.type (some scope) Manifest.pod
    ("create pod " ++ scope ++ "/" ++ Manifest.probePod)

/-- Deletes the pod of the probe at once. -/
def deletePod (server : Server σ) (scope : String) : Step σ ActionResult :=
  deleteObject server Pod.type (some scope) Manifest.probePod true
    ("delete pod " ++ scope ++ "/" ++ Manifest.probePod)

/-- Deletes the claim of the probe. -/
def deleteClaim (server : Server σ) (scope : String) : Step σ ActionResult :=
  deleteObject server Claim.type (some scope) Manifest.probeClaim false
    ("delete PVC " ++ scope ++ "/" ++ Manifest.probeClaim)

/-- Creates the probe in a namespace: the claim, then the pod. -/
def createProbe (server : Server σ) (scope : String) (storageClass : Option String) :
    Step σ ActionResult :=
  bothDone (createClaim server scope storageClass) (createPod server scope)

/-- Deletes the probe in a namespace: the pod, then the claim. -/
def deleteProbe (server : Server σ) (scope : String) : Step σ ActionResult :=
  bothDone (deletePod server scope) (deleteClaim server scope)

end ClusterReady

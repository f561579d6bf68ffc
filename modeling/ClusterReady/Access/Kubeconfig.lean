import ClusterReady.Api.Address
import ClusterReady.Environment
import ClusterReady.Text.Quoted
import ClusterReady.Yaml.Decode

/-!
# Kubeconfig files

A kubeconfig names clusters, and contexts that say which of them to use and with which namespace.
Files and the documents in them are merged: what was named first stays.
-/

namespace ClusterReady

namespace Kubeconfig

/-- Something with a name, which may be all there is. -/
structure Named (α : Type) where
  name : String := ""
  content : Option α := none

/-- Where a cluster is. -/
structure Cluster where
  server : Option String := none

/-- A cluster and the namespace to use in it. -/
structure Context where
  cluster : String := ""
  scope : Option String := none

end Kubeconfig

/-- The contents of kubeconfig files. -/
structure Kubeconfig where
  kind : Option String := none
  apiVersion : Option String := none
  currentContext : Option String := none
  clusters : List (Kubeconfig.Named Kubeconfig.Cluster) := []
  contexts : List (Kubeconfig.Named Kubeconfig.Context) := []

/-- Why a kubeconfig does not lead to a cluster. -/
inductive KubeconfigError where
  | read (path : String) (fault : FileFault)
  | malformed (fault : Yaml.Malformed)
  | misshapen (fault : Yaml.Fault)
  | kindsDiffer
  | versionsDiffer
  | noPath
  | noCurrentContext
  | noContext (name : String)
  | noCluster (name : String)
  | noServer
  | badServer (fault : AddressFault)
deriving DecidableEq, Repr

namespace KubeconfigError

def message : KubeconfigError → String
  | read path fault =>
    "failed to read kubeconfig from '" ++ Text.quoted path ++ "': " ++ fault.message
  | malformed fault => "failed to parse kubeconfig YAML: " ++ fault.message
  | misshapen fault => "the structure of the parsed kubeconfig is invalid: " ++ fault.text
  | kindsDiffer => "kubeconfigs with mismatching kind cannot be merged"
  | versionsDiffer => "kubeconfigs with mismatching api version cannot be merged"
  | noPath => "failed to find the path of kubeconfig"
  | noCurrentContext => "failed to determine current context"
  | noContext name => "failed to load current context: " ++ name
  | noCluster name => "failed to load the cluster of context: " ++ name
  | noServer => "cluster url is missing on selected cluster"
  | badServer fault => "failed to parse cluster url: " ++ fault.message

/-- The error that lies behind this one, if there is one. -/
def source? : KubeconfigError → Option String
  | read _ fault => some fault.message
  | malformed fault => some fault.message
  | misshapen fault => some fault.text
  | badServer fault => some fault.message
  | _ => none

/-- The error and what lies behind it. -/
def causes (e : KubeconfigError) : List String := e.message :: e.source?.toList

end KubeconfigError

namespace Kubeconfig

open Yaml (Decoder)

/-- A text; a scalar that means something else is none. -/
def text : Decoder String := fun path n =>
  match n with
  | .scalar written style tag =>
    match Yaml.Scalar.meaning written style tag with
    | .ok (.str s) => .ok s
    | _ => Yaml.mismatch "a string" path n
  | n => Yaml.mismatch "a string" path n

/-- A list, which may be absent. -/
def listOf {α : Type} (d : Decoder α) : Decoder (List α) := fun path n =>
  (Yaml.nullable (Yaml.listOf d) path n).map (·.getD [])

def clusterDecoder : Decoder Cluster :=
  Yaml.record "Cluster" {} [
    .optional "server" (Yaml.nullable text) fun v c => { c with server := v },
    .optional "insecure-skip-tls-verify" (Yaml.nullable Yaml.boolean) fun _ c => c,
    .optional "certificate-authority" (Yaml.nullable text) fun _ c => c,
    .optional "certificate-authority-data" (Yaml.nullable text) fun _ c => c,
    .optional "proxy-url" (Yaml.nullable text) fun _ c => c,
    .optional "disable-compression" (Yaml.nullable Yaml.boolean) fun _ c => c,
    .optional "tls-server-name" (Yaml.nullable text) fun _ c => c]

def contextDecoder : Decoder Context :=
  Yaml.record "Context" {} [
    .required "cluster" text fun v c => { c with cluster := v },
    .optional "user" (Yaml.nullable text) fun _ c => c,
    .optional "namespace" (Yaml.nullable text) fun v c => { c with scope := v }]

/-- A name with what it names under this key. -/
def namedDecoder {α : Type} (type key : String) (d : Decoder α) : Decoder (Named α) :=
  Yaml.record type {} [
    .required "name" text fun v n => { n with name := v },
    .optional key (Yaml.nullable d) fun v n => { n with content := v }]

/-- The credentials of a user; none of them matter here. -/
def userDecoder : Decoder Unit :=
  Yaml.record "AuthInfo" () [
    .optional "username" (Yaml.nullable text) fun _ => id,
    .optional "password" (Yaml.nullable text) fun _ => id,
    .optional "token" (Yaml.nullable text) fun _ => id,
    .optional "tokenFile" (Yaml.nullable text) fun _ => id,
    .optional "client-certificate" (Yaml.nullable text) fun _ => id,
    .optional "client-certificate-data" (Yaml.nullable text) fun _ => id,
    .optional "client-key" (Yaml.nullable text) fun _ => id,
    .optional "client-key-data" (Yaml.nullable text) fun _ => id,
    .optional "as" (Yaml.nullable text) fun _ => id]

def decoder : Decoder Kubeconfig :=
  Yaml.record "Kubeconfig" {} [
    .optional "clusters" (listOf (namedDecoder "NamedCluster" "cluster" clusterDecoder))
      fun v k => { k with clusters := v },
    .optional "users" (listOf (namedDecoder "NamedAuthInfo" "user" userDecoder)) fun _ k => k,
    .optional "contexts" (listOf (namedDecoder "NamedContext" "context" contextDecoder))
      fun v k => { k with contexts := v },
    .optional "current-context" (Yaml.nullable text) fun v k => { k with currentContext := v },
    .optional "kind" (Yaml.nullable text) fun v k => { k with kind := v },
    .optional "apiVersion" (Yaml.nullable text) fun v k => { k with apiVersion := v }]

/-- Adds what has a name that is not taken. -/
def mergeNamed {α : Type} (named more : List (Named α)) : List (Named α) :=
  named ++ more.filter fun n => !named.any (·.name == n.name)

/-- Whether two texts that are both there differ. -/
def differ (a b : Option String) : Bool := a.isSome && b.isSome && a != b

/-- Adds another kubeconfig; what is there already stays. -/
def merge (k next : Kubeconfig) : Except KubeconfigError Kubeconfig :=
  if differ k.kind next.kind then .error .kindsDiffer
  else if differ k.apiVersion next.apiVersion then .error .versionsDiffer
  else .ok {
    kind := k.kind <|> next.kind
    apiVersion := k.apiVersion <|> next.apiVersion
    currentContext := k.currentContext <|> next.currentContext
    clusters := mergeNamed k.clusters next.clusters
    contexts := mergeNamed k.contexts next.contexts }

/-- The kubeconfig in a document. -/
def ofNode (n : Yaml.Node) : Except KubeconfigError Kubeconfig :=
  (decoder "" n).mapError fun fault => .misshapen { fault with path := none }

/-- Merges the documents of a text. -/
def ofText (text : String) : Except KubeconfigError Kubeconfig := do
  let nodes ← (Yaml.Node.readAll text).mapError .malformed
  (← nodes.mapM ofNode).foldlM merge {}

/-- A text without the mark that may stand in front of it. -/
def withoutMark (text : String) : String :=
  match text.toList with
  | '\ufeff' :: rest => String.ofList rest
  | _ => text

/-- The kubeconfig in a file. -/
def load (files : Files) (path : String) : Except KubeconfigError Kubeconfig := do
  ofText (withoutMark (← (files.text path).mapError (.read path)))

/-- The content of the first of that name. -/
def find? {α : Type} (name : String) (named : List (Named α)) : Option α :=
  named.find? (·.name == name) >>= (·.content)

end Kubeconfig

end ClusterReady

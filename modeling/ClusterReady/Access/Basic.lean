import ClusterReady.Access.Kubeconfig
import ClusterReady.Environment

/-!
# Access to a cluster

Where the API server of the cluster under test is, found through a kubeconfig that is given, one
that the environment names, or the one in the home directory.
-/

namespace ClusterReady

/-- Where an API server is, and the namespace to use where none is named. -/
structure Access where
  address : Address
  defaultNamespace : String
deriving DecidableEq, Repr

/-- Why no cluster is found. -/
inductive AccessError where
  /-- The kubeconfig that was given cannot be read. -/
  | unreadable (path : String) (cause : KubeconfigError)
  | kubeconfig (cause : KubeconfigError)
  /-- Neither the surroundings nor the kubeconfig lead to a cluster. -/
  | notInferred (cause : KubeconfigError)
deriving DecidableEq, Repr

namespace AccessError

/-- Why the program is not run in a cluster. -/
def notInCluster : String :=
  "failed to read an incluster environment variable: environment variable not found"

/-- The error and what lies behind it. -/
def causes : AccessError → List String
  | unreadable path cause => ("failed to read kubeconfig " ++ path) :: cause.causes
  | kubeconfig cause => cause.causes
  | notInferred cause =>
    ("failed to infer config: in-cluster: (" ++ notInCluster ++ "), kubeconfig: (" ++
      cause.message ++ ")") :: cause.causes

end AccessError

namespace Kubeconfig

/-- The cluster of a context, which is the current one unless it is named. -/
def select (k : Kubeconfig) (context : Option String) : Except KubeconfigError Access := do
  let name ← match context <|> k.currentContext with
    | some name => pure name
    | none => .error .noCurrentContext
  let chosen ← match find? name k.contexts with
    | some chosen => pure chosen
    | none => .error (.noContext name)
  let cluster ← match find? chosen.cluster k.clusters with
    | some cluster => pure cluster
    | none => .error (.noCluster chosen.cluster)
  let server ← match cluster.server with
    | some server => pure server
    | none => .error .noServer
  let address ← (Address.parse server).mapError .badServer
  return ⟨address, chosen.scope.getD "default"⟩

/-- The paths in the environment, or that in the home directory. -/
def paths (env : Environment) : Except KubeconfigError (List String) :=
  let named := ((env.lookup "KUBECONFIG").getD "").toList.splitOn ':'
  match (named.map String.ofList).filter (!·.isEmpty) with
  | [] =>
    match env.lookup "HOME" with
    | some home => .ok [home ++ "/.kube/config"]
    | none => .error .noPath
  | paths => .ok paths

/-- Adds the kubeconfig in a file. -/
def mergeFile (env : Environment) (k : Kubeconfig) (path : String) :
    Except KubeconfigError Kubeconfig := do
  k.merge (← load env.files path)

/-- The kubeconfig of an environment. -/
def ofEnvironment (env : Environment) : Except KubeconfigError Kubeconfig := do
  (← paths env).foldlM (mergeFile env) {}

end Kubeconfig

/-- Finds the cluster: in the kubeconfig of that path, if one is given, and else in that of the
environment. -/
def Access.find (env : Environment) (kubeconfig context : Option String) :
    Except AccessError Access :=
  match kubeconfig, context with
  | some path, _ => do
    let k ← (Kubeconfig.load env.files path).mapError (.unreadable path)
    (k.select context).mapError .kubeconfig
  | none, some _ =>
    (Kubeconfig.ofEnvironment env >>= (·.select context)).mapError .kubeconfig
  | none, none =>
    (Kubeconfig.ofEnvironment env >>= (·.select none)).mapError .notInferred

end ClusterReady

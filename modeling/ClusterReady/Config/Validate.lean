import ClusterReady.Config.Decode
import ClusterReady.Environment
import ClusterReady.Wait.Timing

/-!
# Valid configurations

The timing that a configuration gives to its checks, the rules that its decoder cannot see, and
the ways to load one.
-/

namespace ClusterReady

/-- A rule of configurations that is broken. -/
inductive InvalidConfig where
  /-- The timing of a wait is not valid. -/
  | wait (fault : InvalidWait)
  /-- The control plane of this provider is visible and has to be described. -/
  | controlPlaneMissing (provider : Provider)
  | systemNamespaceEmpty
  | resourceNameEmpty
deriving DecidableEq, Repr

def InvalidConfig.message : InvalidConfig → String
  | wait fault => (WaitError.invalid fault).message
  | controlPlaneMissing provider => "controlPlane is required for provider " ++ provider.name
  | systemNamespaceEmpty => "systemNamespace must not be empty"
  | resourceNameEmpty => "clusterResource.name must not be empty"

/-- Why a configuration cannot be loaded. -/
inductive ConfigError where
  | read (path : String) (fault : FileFault)
  /-- The text is not one document. -/
  | malformed (fault : Yaml.Malformed)
  | decode (fault : Yaml.Fault)
  | invalid (fault : InvalidConfig)
deriving DecidableEq, Repr

namespace ConfigError

/-- The reason of an error without its kind. -/
def reason : ConfigError → String
  | read _ fault => fault.message
  | malformed fault => fault.message
  | decode fault => fault.text
  | invalid fault => fault.message

def message : ConfigError → String
  | read path fault => "failed to read config file '" ++ path ++ "': " ++ fault.message
  | malformed fault => "failed to parse config: " ++ fault.message
  | decode fault => "failed to parse config: " ++ fault.text
  | invalid fault => "invalid config: " ++ fault.message

/-- The error that lies behind this one, if there is one. -/
def source? : ConfigError → Option String
  | invalid _ => none
  | e => some e.reason

end ConfigError

namespace SuiteConfig

variable [Horizon]

/-- The timing of a poll with this timeout, in seconds. -/
def pollWithin (c : SuiteConfig) (timeoutSecs : UInt64) : Except InvalidConfig PollConfig :=
  (PollConfig.make (.ofSecs timeoutSecs.toNat) (.ofSecs c.polling.intervalSecs.toNat)).mapError
    .wait

/-- The timing of the polls that have none of their own. -/
def poll (c : SuiteConfig) : Except InvalidConfig PollConfig := c.pollWithin c.polling.timeoutSecs

/-- The timing of the poll of a pool of nodes. -/
def poolPoll (c : SuiteConfig) (pool : NodePool) : Except InvalidConfig PollConfig :=
  c.pollWithin (pool.timeoutSecs.getD c.polling.timeoutSecs)

/-- How often a steady condition has to hold. -/
def steady (c : SuiteConfig) : Except InvalidConfig ConsistencyConfig :=
  (ConsistencyConfig.make c.consistency.requiredSuccesses.toNat
    (.ofSecs c.consistency.delaySecs.toNat)).mapError .wait

/-- Checks the rules of a configuration; of several broken ones the first counts. -/
def validate (c : SuiteConfig) : Except InvalidConfig Unit := do
  let _ ← c.poll
  let _ ← c.steady
  let _ ← c.poolPoll c.workers
  match c.controlPlane with
  | some pool =>
    let _ ← c.poolPoll pool
  | none =>
    if c.provider.hasVisibleControlPlane then .error (.controlPlaneMissing c.provider)
  if c.systemNamespace.isEmpty then .error .systemNamespaceEmpty
  match c.clusterResource with
  | some resource => if resource.name.isEmpty then .error .resourceNameEmpty
  | none => pure ()

/-- The configuration in a text. -/
def ofYaml (text : String) : Except ConfigError SuiteConfig := do
  let tree ← (Yaml.Node.read text).mapError .malformed
  let config ← (decoder "" tree).mapError .decode
  config.validate.mapError .invalid
  return config

/-- The configuration in a file. -/
def load (files : Files) (path : String) : Except ConfigError SuiteConfig := do
  ofYaml (← (files.text path).mapError (.read path))

end SuiteConfig

end ClusterReady

import ClusterReady.Log.Output
import ClusterReady.Program.Basic

/-!
# Processes

A process is the program with its arguments: it ends with an exit code, with what it has printed
and with what it says about its errors.
-/

namespace ClusterReady

/-- What is left of a process. -/
structure ProcessResult where
  exit : UInt32
  /-- The events of the run, in their order. -/
  events : List Event := []
  /-- The metrics that were printed, if any. -/
  metrics : Option (List String) := none
  /-- What is printed besides. -/
  output : String := ""
  /-- What is said about errors. -/
  errors : String := ""

namespace CommandLine

/-- The help text. -/
def help : List String := [
  "Run the cluster readiness suite against a workload cluster",
  "",
  "Usage: cluster-e2e [OPTIONS] --config <CONFIG>",
  "",
  "Options:",
  "  -c, --config <CONFIG>          Suite configuration file (YAML)",
  "      --kubeconfig <KUBECONFIG>  Kubeconfig for the cluster under test",
  "      --context <CONTEXT>        Kubeconfig context to use",
  "      --print-metrics            Print Prometheus metrics to stdout after the run",
  "  -h, --help                     Print help",
  "  -V, --version                  Print version"]

/-- What is said about arguments that are refused. -/
def Refusal.text : Refusal → String
  | help => "\n".intercalate CommandLine.help ++ "\n"
  | version => versionText ++ "\n"
  | unknownArgument text => "error: unexpected argument '" ++ text ++ "' found\n"
  | missingValue option | emptyPath option =>
    "error: a value is required for '" ++ option ++ "' but none was supplied\n"
  | repeated option => "error: the argument '" ++ option ++ "' cannot be used multiple times\n"
  | unneededValue option =>
    "error: unexpected value for '" ++ option ++ "' found; no more were expected\n"
  | missingConfig =>
    "error: the following required arguments were not provided:\n  --config <CONFIG>\n"

/-- Whether a refusal is what was asked for. -/
def Refusal.isWanted : Refusal → Bool
  | help | version => true
  | _ => false

/-- A process whose arguments are refused. -/
def Refusal.result (r : Refusal) : ProcessResult :=
  if r.isWanted then { exit := 0, output := r.text } else { exit := 2, errors := r.text }

end CommandLine

namespace Program

variable {σ : Type}

/-- What is left of a process that ran in a session. -/
def result (ending : Ending) (s : Session σ) : ProcessResult where
  exit := match ending.result with
    | .ok () => 0
    | .error _ => 1
  events := s.journal.events.reverse
  metrics := ending.printed
  errors := match ending.result with
    | .ok () => ""
    | .error e => e.text

/-- Runs a process that starts in a session. -/
def process (env : Environment) (server : Access → Server σ) (stamp : Stamp)
    (arguments : List String) (s : Session σ) : ProcessResult :=
  match CommandLine.parse env.lookup arguments with
  | .error refusal => refusal.result
  | .ok inv =>
    let r := (run env server stamp inv s).val
    result r.1 r.2

end Program

end ClusterReady

import ClusterReady.Access.Basic
import ClusterReady.CommandLine
import ClusterReady.Metrics.Exposition
import ClusterReady.Suite.Run

/-!
# The program

The program loads the configuration, finds the cluster, runs the suite and tells how it went.  It
is a success when the suite is.
-/

namespace ClusterReady

variable {σ : Type}

/-- Why the program is no success. -/
inductive ProgramError where
  | config (path : String) (cause : ConfigError)
  | access (cause : AccessError)
  | suite (cause : InvalidConfig)
  | unsuccessful (failing total : Nat)
deriving DecidableEq, Repr

namespace ProgramError

/-- The error and what lies behind it. -/
def causes : ProgramError → List String
  | config path cause => ("failed to load " ++ path) :: cause.message :: cause.source?.toList
  | access cause => cause.causes
  | suite cause => [(ConfigError.invalid cause).message]
  | unsuccessful failing total => [s!"{failing} of {total} checks did not pass"]

/-- A text whose lines but the first start with a margin. -/
def withMargin (margin text : String) : String :=
  String.ofList (text.toList.flatMap fun c =>
    if c == '\n' then '\n' :: margin.toList else [c])

/-- A number at the end of five places. -/
def placed (n : Nat) : String :=
  let digits := toString n
  String.ofList (List.replicate (5 - digits.length) ' ') ++ digits

/-- The lines on the causes behind an error, which are numbered if there are several. -/
def behindText : List String → String
  | [] => ""
  | [cause] => "\n\nCaused by:\n    " ++ withMargin "    " cause
  | causes =>
    "\n\nCaused by:" ++ String.join (causes.zipIdx.map fun (cause, i) =>
      "\n" ++ placed i ++ ": " ++ withMargin "       " cause)

/-- What the program says about an error. -/
def text (e : ProgramError) : String :=
  match e.causes with
  | [] => "Error: \n"
  | first :: behind => "Error: " ++ first ++ behindText behind ++ "\n"

end ProgramError

/-- How the program has ended: the metrics that it prints, if any, and whether it is a success. -/
structure Ending where
  printed : Option (List String) := none
  result : Except ProgramError Unit

namespace Program

/-- Finds the cluster, and notes the kubeconfig that was given and the address. -/
def connect (env : Environment) (inv : Invocation) : Step σ (Except AccessError Access) := do
  match inv.kubeconfig with
  | some path => Step.note (.kubeconfigOpened path)
  | none => pure ()
  match Access.find env inv.kubeconfig inv.context with
  | .error e => return .error e
  | .ok access =>
    Step.note (.clientConfigured access.address.text)
    return .ok access

/-- The metrics of a run, when they are asked for. -/
def metrics (inv : Invocation) : Step σ (Option (List String)) := do
  if inv.printMetrics then return some (Metrics.exposition (← Step.measurements)) else return none

/-- Ends the program after the suite. -/
def conclude (inv : Invocation) : Except InvalidConfig SuiteReport → Step σ Ending
  | .error fault => return { result := .error (.suite fault) }
  | .ok report => do
    report.logSummary
    let printed ← metrics inv
    if report.isSuccess then
      Step.note .allPassed
      return { printed, result := .ok () }
    else
      let total := report.checks.length
      return { printed, result := .error (.unsuccessful (total - report.passed) total) }

/-- Runs the program; `server` is the API server that is found at an address. -/
def run [Horizon] (env : Environment) (server : Access → Server σ) (stamp : Stamp)
    (inv : Invocation) : Step σ Ending := do
  Step.note .programStarted
  match SuiteConfig.load env.files inv.config with
  | .error e => return { result := .error (.config inv.config e) }
  | .ok config =>
    Step.note (.configLoaded config.provider.name)
    match ← connect env inv with
    | .error e => return { result := .error (.access e) }
    | .ok access => conclude inv (← runSuite { config, server := server access, stamp })

end Program

end ClusterReady

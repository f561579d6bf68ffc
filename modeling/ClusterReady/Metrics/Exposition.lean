import ClusterReady.Decimal
import ClusterReady.Metrics.Measurement

/-!
# The exposition of metrics

The lines in which the metrics of a run are printed: for every family with samples two lines that
describe it, and a line for every sample.  Families are sorted by name, samples by the values of
their labels.
-/

namespace ClusterReady.Metrics

/-- A character of a label's value. -/
def escapeChar (c : Char) : List Char :=
  if c == '\\' then ['\\', '\\']
  else if c == '"' then ['\\', '"']
  else if c == '\n' then ['\\', 'n']
  else [c]

def escape (value : String) : String := String.ofList (value.toList.flatMap escapeChar)

/-- A sample: its name, its labels and its value. -/
structure Sample where
  name : String
  labels : List (String × String)
  value : String
deriving DecidableEq, Repr

def labelText (key value : String) : String := key ++ "=\"" ++ escape value ++ "\""

def Sample.line (s : Sample) : String :=
  s.name ++ "\x7b" ++ ",".intercalate (s.labels.map fun (key, value) => labelText key value) ++
    "\x7d " ++ s.value

/-- A family of samples. -/
structure Family where
  name : String
  help : String
  type : String
  samples : List Sample
deriving DecidableEq, Repr

/-- The lines of a family, of which there are none without samples. -/
def Family.lines (f : Family) : List String :=
  if f.samples.isEmpty then []
  else
    ("# HELP " ++ f.name ++ " " ++ f.help) :: ("# TYPE " ++ f.name ++ " " ++ f.type) ::
      f.samples.map Sample.line

/-- The different names among some, sorted. -/
def sortedNames (names : List String) : List String := names.eraseDups.mergeSort (· ≤ ·)

/-- The checks that were run, sorted. -/
def resolvedChecks (ms : List Measurement) : List String :=
  sortedNames ((ms.filter (·.elapsed?.isSome)).map (·.check))

/-- The number of a double in a sample. -/
def floatText (x : Float) : String := Decimal.plain.text x.toBits

def durationName : String := "cluster_e2e_check_duration_seconds"

/-- The samples of the durations of one check. -/
def durationSamples (ms : List Measurement) (check : String) : List Sample :=
  let ds := durations ms check
  let bucket (le : String) (n : Nat) : Sample :=
    ⟨durationName ++ "_bucket", [("check", check), ("le", le)], toString n⟩
  bounds.map (fun bound => bucket (toString bound) (upTo bound ds)) ++
    [bucket "+Inf" ds.length,
      ⟨durationName ++ "_sum", [("check", check)], floatText (secondsTotal ds)⟩,
      ⟨durationName ++ "_count", [("check", check)], toString ds.length⟩]

def durationFamily (ms : List Measurement) : Family where
  name := durationName
  help := "Duration of checks in seconds by name"
  type := "histogram"
  samples := (resolvedChecks ms).flatMap (durationSamples ms)

def checksName : String := "cluster_e2e_checks_total"

/-- The outcomes, sorted. -/
def outcomes : List String := ["cancelled", "failed", "passed", "skipped"]

/-- The samples of the outcomes of one check. -/
def checksSamples (ms : List Measurement) (check : String) : List Sample :=
  outcomes.filterMap fun outcome =>
    let n := checksTotal ms check outcome
    if n = 0 then none
    else some ⟨checksName, [("check", check), ("outcome", outcome)], toString n⟩

def checksFamily (ms : List Measurement) : Family where
  name := checksName
  help := "Total number of checks by name and outcome"
  type := "counter"
  samples := (sortedNames (ms.map (·.check))).flatMap (checksSamples ms)

def attemptsName : String := "cluster_e2e_poll_attempts_total"

def attemptsFamily (ms : List Measurement) : Family where
  name := attemptsName
  help := "Total number of predicate evaluations by check name"
  type := "counter"
  samples := (resolvedChecks ms).map fun check =>
    ⟨attemptsName, [("check", check)], toString (attemptsTotal ms check)⟩

/-- The families of a run, sorted by name. -/
def families (ms : List Measurement) : List Family :=
  [durationFamily ms, checksFamily ms, attemptsFamily ms]

/-- The lines of the exposition of measurements, which are in the order in which they were made. -/
def exposition (ms : List Measurement) : List String := (families ms).flatMap Family.lines

end ClusterReady.Metrics

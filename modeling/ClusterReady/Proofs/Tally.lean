import ClusterReady.Metrics.Exposition
import ClusterReady.Proofs.LedgerRun

/-!
# Reports and metrics agree

The reports and the measurements of a run are written in different places, but both are read off
its ledger.  So each counter and each duration in the metrics of a run that starts without
measurements is what its reports, and the checks that they are about, add up to.
-/

namespace ClusterReady

variable {σ : Type}

/-! ## Samples -/

namespace Metrics

theorem mem_sortedNames {names : List String} {name : String} :
    name ∈ sortedNames names ↔ name ∈ names := by
  rw [sortedNames, List.mem_mergeSort, List.mem_eraseDups]

theorem outcome_mem (m : Measurement) : m.outcome ∈ outcomes := by
  cases m with
  | resolved check resolution attempts elapsed =>
      cases resolution <;> simp [outcomes, Measurement.outcome]
  | skipped check => simp [outcomes, Measurement.outcome]

theorem durations_ne_nil_iff {ms : List Measurement} {check : String} :
    durations ms check ≠ [] ↔ ∃ m ∈ ms, m.check = check ∧ m.elapsed?.isSome = true := by
  constructor
  · intro hsome
    obtain ⟨d, hd⟩ := List.exists_mem_of_ne_nil _ hsome
    obtain ⟨m, hm, helapsed⟩ := List.mem_filterMap.mp hd
    obtain ⟨hmem, hcheck⟩ := List.mem_filter.mp hm
    exact ⟨m, hmem, beq_iff_eq.mp hcheck, by rw [helapsed, Option.isSome_some]⟩
  · rintro ⟨m, hmem, hcheck, hresolved⟩
    obtain ⟨d, hd⟩ := Option.isSome_iff_exists.mp hresolved
    apply List.ne_nil_of_mem (a := d)
    exact List.mem_filterMap.mpr ⟨m, List.mem_filter.mpr ⟨hmem, beq_iff_eq.mpr hcheck⟩, hd⟩

theorem mem_resolvedChecks {ms : List Measurement} {check : String} :
    check ∈ resolvedChecks ms ↔ durations ms check ≠ [] := by
  rw [resolvedChecks, mem_sortedNames, durations_ne_nil_iff, List.mem_map]
  constructor
  · rintro ⟨m, hm, hcheck⟩
    obtain ⟨hmem, hresolved⟩ := List.mem_filter.mp hm
    exact ⟨m, hmem, hcheck, hresolved⟩
  · rintro ⟨m, hmem, hcheck, hresolved⟩
    exact ⟨m, List.mem_filter.mpr ⟨hmem, hresolved⟩, hcheck⟩

/-- There is a sample for each count of an outcome that is not zero, and no other. -/
theorem mem_checksFamily {ms : List Measurement} {x : Sample} :
    x ∈ (checksFamily ms).samples ↔ ∃ check outcome, checksTotal ms check outcome ≠ 0 ∧
      x = ⟨checksName, [("check", check), ("outcome", outcome)],
        toString (checksTotal ms check outcome)⟩ := by
  simp only [checksFamily, List.mem_flatMap, mem_sortedNames, checksSamples, List.mem_filterMap]
  constructor
  · rintro ⟨check, -, outcome, -, hsample⟩
    by_cases hzero : checksTotal ms check outcome = 0
    · rw [if_pos hzero] at hsample
      cases hsample
    · rw [if_neg hzero] at hsample
      cases hsample
      exact ⟨check, outcome, hzero, rfl⟩
  · rintro ⟨check, outcome, hcount, rfl⟩
    obtain ⟨m, hm, hboth⟩ := List.countP_pos_iff.mp (Nat.pos_of_ne_zero hcount)
    simp only [Bool.and_eq_true, beq_iff_eq] at hboth
    obtain ⟨rfl, rfl⟩ := hboth
    exact ⟨m.check, List.mem_map_of_mem hm, m.outcome, outcome_mem m, if_neg hcount⟩

/-- The histogram counts the durations of each check that has some. -/
theorem mem_durationFamily_count {ms : List Measurement} {x : Sample} :
    x ∈ (durationFamily ms).samples ∧ x.name = durationName ++ "_count" ↔
      ∃ check, durations ms check ≠ [] ∧
        x = ⟨durationName ++ "_count", [("check", check)],
          toString (durations ms check).length⟩ := by
  have hbucket : durationName ++ "_bucket" ≠ durationName ++ "_count" := by decide
  have hsum : durationName ++ "_sum" ≠ durationName ++ "_count" := by decide
  simp only [durationFamily, List.mem_flatMap, mem_resolvedChecks]
  constructor
  · rintro ⟨⟨check, hresolved, hx⟩, hname⟩
    simp only [durationSamples, List.mem_append, List.mem_map, List.mem_cons, List.not_mem_nil,
      or_false] at hx
    rcases hx with ⟨bound, -, rfl⟩ | rfl | rfl | rfl
    · exact absurd hname hbucket
    · exact absurd hname hbucket
    · exact absurd hname hsum
    · exact ⟨check, hresolved, rfl⟩
  · rintro ⟨check, hresolved, rfl⟩
    refine ⟨⟨check, hresolved, ?_⟩, rfl⟩
    simp [durationSamples]

theorem mem_attemptsFamily {ms : List Measurement} {x : Sample} :
    x ∈ (attemptsFamily ms).samples ↔ ∃ check, durations ms check ≠ [] ∧
      x = ⟨attemptsName, [("check", check)], toString (attemptsTotal ms check)⟩ := by
  simp only [attemptsFamily, List.mem_map, mem_resolvedChecks, eq_comm]

end Metrics

/-! ## Entries and their measurements -/

/-- The name of an outcome in the metrics. -/
def Outcome.label : Outcome → String
  | passed _ => "passed"
  | failed _ => "failed"
  | cancelled _ => "cancelled"
  | skipped _ => "skipped"

namespace Entry

theorem check_measurement (e : Entry σ) : e.measurement.check = e.report.name := by
  unfold measurement
  cases e.report.outcome <;> rfl

theorem outcome_measurement (e : Entry σ) : e.measurement.outcome = e.report.outcome.label := by
  unfold measurement
  cases e.report.outcome <;> rfl

theorem elapsed_measurement (e : Entry σ) :
    e.measurement.elapsed? = if e.report.outcome.isSkipped then none else some e.elapsed := by
  unfold measurement
  cases e.report.outcome <;> rfl

theorem attempts_measurement (e : Entry σ) :
    e.measurement.attempts? = if e.report.outcome.isSkipped then none else some e.attempts := by
  unfold measurement
  cases e.report.outcome <;> rfl

theorem attempts_of_skipped {e : Entry σ} (h : e.report.outcome.isSkipped = true) :
    e.attempts = 0 := by
  cases e with
  | refused name error => rfl
  | stoodDown => rfl
  | turn c s =>
      cases hs : s.cancelled with
      | true => rw [attempts, Check.ticks, hs, if_pos rfl, List.length_nil]
      | false =>
          rw [report, (Check.run_of_not_cancelled hs).1] at h
          cases hvalue : c.wait.value (c.waiting s) with
          | ok summary =>
              rw [hvalue] at h
              cases h
          | error e =>
              rw [hvalue] at h
              cases hcancelled : e.isCancelled <;>
                simp [Check.reportOf, hcancelled, Outcome.isSkipped] at h

end Entry

/-! ## What the measurements of a ledger add up to -/

/-- These measurements agree with the reports of this ledger: the counters of outcomes, the
durations, and the counters of attempts. -/
structure Tallied (ledger : List (Entry σ)) (ms : List Measurement) : Prop where
  checks : ∀ name outcome, Metrics.checksTotal ms name outcome =
    (ledger.map Entry.report).countP fun r => r.name == name && r.outcome.label == outcome
  durations : ∀ name, Metrics.durations ms name =
    (ledger.filter fun e => e.report.name == name && !e.report.outcome.isSkipped).map
      Entry.elapsed
  count : ∀ name, (Metrics.durations ms name).length =
    (ledger.map Entry.report).countP fun r => r.name == name && !r.outcome.isSkipped
  attempts : ∀ name, Metrics.attemptsTotal ms name =
    ((ledger.filter fun e => e.report.name == name).map Entry.attempts).foldr (· + ·) 0
  passed : ∀ e ∈ ledger, ∀ summary, e.report.outcome = .passed summary →
    summary = ⟨e.attempts, e.elapsed⟩

/-- What is printed of these measurements: no sample where there is nothing to count. -/
structure Exposed (ms : List Measurement) : Prop where
  checks : ∀ x, x ∈ (Metrics.checksFamily ms).samples ↔
    ∃ name outcome, Metrics.checksTotal ms name outcome ≠ 0 ∧
      x = ⟨Metrics.checksName, [("check", name), ("outcome", outcome)],
        toString (Metrics.checksTotal ms name outcome)⟩
  count : ∀ x, x ∈ (Metrics.durationFamily ms).samples ∧
      x.name = Metrics.durationName ++ "_count" ↔
    ∃ name, Metrics.durations ms name ≠ [] ∧
      x = ⟨Metrics.durationName ++ "_count", [("check", name)],
        toString (Metrics.durations ms name).length⟩
  attempts : ∀ x, x ∈ (Metrics.attemptsFamily ms).samples ↔
    ∃ name, Metrics.durations ms name ≠ [] ∧
      x = ⟨Metrics.attemptsName, [("check", name)], toString (Metrics.attemptsTotal ms name)⟩

theorem exposed (ms : List Measurement) : Exposed ms where
  checks _ := Metrics.mem_checksFamily
  count _ := Metrics.mem_durationFamily_count
  attempts _ := Metrics.mem_attemptsFamily

theorem durations_ledger (ledger : List (Entry σ)) (name : String) :
    Metrics.durations (ledger.map Entry.measurement) name =
      (ledger.filter fun e => e.report.name == name && !e.report.outcome.isSkipped).map
        Entry.elapsed := by
  induction ledger with
  | nil => rfl
  | cons e rest ih =>
      unfold Metrics.durations Metrics.ofCheck at ih ⊢
      rw [List.map_cons, List.filter_cons, List.filter_cons, Entry.check_measurement]
      cases hname : e.report.name == name with
      | false =>
          simp only [Bool.false_and, Bool.false_eq_true, if_false]
          exact ih
      | true =>
          simp only [Bool.true_and, if_true]
          rw [List.filterMap_cons, Entry.elapsed_measurement]
          cases hskipped : e.report.outcome.isSkipped with
          | true => simpa using ih
          | false => simpa using ih

theorem attempts_ledger (ledger : List (Entry σ)) (name : String) :
    Metrics.attemptsTotal (ledger.map Entry.measurement) name =
      ((ledger.filter fun e => e.report.name == name).map Entry.attempts).foldr (· + ·) 0 := by
  induction ledger with
  | nil => rfl
  | cons e rest ih =>
      unfold Metrics.attemptsTotal Metrics.ofCheck at ih ⊢
      rw [List.map_cons, List.filter_cons, List.filter_cons, Entry.check_measurement]
      cases hname : e.report.name == name with
      | false =>
          simp only [Bool.false_eq_true, if_false]
          exact ih
      | true =>
          simp only [if_true]
          rw [List.filterMap_cons, Entry.attempts_measurement, List.map_cons, List.foldr_cons, ← ih]
          -- what is skipped has no count of attempts, and has made none
          cases hskipped : e.report.outcome.isSkipped with
          | true => simp [Entry.attempts_of_skipped hskipped]
          | false => rfl

theorem tallied_ledger (ledger : List (Entry σ)) :
    Tallied ledger (ledger.map Entry.measurement) where
  checks name outcome := by
    rw [Metrics.checksTotal, List.countP_map, List.countP_map]
    simp only [Function.comp_def, Entry.check_measurement, Entry.outcome_measurement]
  durations := durations_ledger ledger
  count name := by
    rw [durations_ledger, List.length_map, ← List.countP_eq_length_filter, List.countP_map]
    rfl
  attempts := attempts_ledger ledger
  passed _ _ _ := Entry.summary_of_passed

/-! ## The suite -/

/-- When a run that starts without measurements gives a report, its metrics agree with it. -/
theorem runSuite_tallied [Horizon]
    {c : Context σ} {s : Session σ} {report : SuiteReport}
    (hclear : s.journal.measurements = []) (hreport : (runSuite c).value s = .ok report) :
    report.checks = (c.ledger s).map Entry.report ∧
      Tallied (c.ledger s) ((runSuite c).final s).journal.measurements.reverse ∧
      Exposed ((runSuite c).final s).journal.measurements.reverse := by
  obtain ⟨checks, -, hchecks, -, -⟩ := runSuite_reports hreport
  have hfiled := runSuite_filed hchecks s
  rw [hfiled.value_eq] at hreport
  cases hreport
  have hmeasurements : ((runSuite c).final s).journal.measurements.reverse =
      (c.ledger s).map Entry.measurement := by
    have hall : ((runSuite c).final s).journal.measurements.reverse =
        s.journal.measurements.reverse ++ (c.ledger s).map Entry.measurement :=
      hfiled.measurements
    rw [hall, hclear, List.reverse_nil, List.nil_append]
  refine ⟨rfl, ?_, exposed _⟩
  rw [hmeasurements]
  exact tallied_ledger (c.ledger s)

theorem healthy_tallied :
    healthyStart.journal.measurements = [] ∧
      ∃ report, (runSuite healthy).value healthyStart = .ok report ∧
        report.checks = (healthy.ledger healthyStart).map Entry.report ∧
        Tallied (healthy.ledger healthyStart)
          ((runSuite healthy).final healthyStart).journal.measurements.reverse ∧
        Exposed ((runSuite healthy).final healthyStart).journal.measurements.reverse := by
  have hvalid : healthy.config.validate = .ok () := rfl
  have hclear : healthyStart.journal.measurements = [] := rfl
  obtain ⟨checks, hchecks⟩ :=
    exists_standardChecks (SuiteConfig.timed_of_validate hvalid) healthy.server
  have hreport := (runSuite_filed hchecks healthyStart).value_eq
  exact ⟨hclear, _, hreport, runSuite_tallied hclear hreport⟩

end ClusterReady

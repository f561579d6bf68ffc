import ClusterReady.Proofs.SingleRead
import ClusterReady.Proofs.Success

/-!
# The ledger of a suite

The ledger of a run has an entry for each of its reports: a check and the session in which its turn
came, an action that was refused, or the storage scenario that the cancellation has kept from
starting.  What a run reports and what it measures are both read off its ledger, entry by entry
(`runSuite_ledger`).
-/

namespace ClusterReady

open Session (Trail)

variable {σ : Type}

/-! ## What a poll counts -/

theorem summary_of_pollUntil_ok
    {p : Predicate σ} {config : PollConfig} {s : Session σ} {summary : PollSummary}
    (h : (pollUntil p config).value s = .ok summary) :
    summary =
      ⟨(pollCalls p config s).length, ⟨((pollUntil p config).final s).now - s.now⟩⟩ := by
  obtain ⟨e, hlast, hv⟩ := last_of_pollUntil_ok h
  have hcall := (pollUntil_run p config s).lastCall hlast
  have hnow : ((pollUntil p config).final s).now = e.finish := by
    apply hcall.now_eq
    intro failure hfailure
    rw [hv] at hfailure
    cases hfailure
  rw [hnow, ((hcall.ok_iff summary).mp h).2, Nat.zero_add]

theorem attempts_of_pollUntil_error
    {p : Predicate σ} {config : PollConfig} {s : Session σ} {error : WaitError}
    (h : (pollUntil p config).value s = .error error) :
    error.attempts = (pollCalls p config s).length := by
  have hattempts := (pollUntil_run p config s).attempts_eq
  rw [h, Nat.zero_add] at hattempts
  exact hattempts

namespace Check

/-- The predicate that the loop of a check evaluates. -/
def driven (c : Check σ) : Predicate σ :=
  match c.strategy with
  | .poll _ => c.predicate
  | .consistent steady _ => c.predicate.consistently steady

def timing (c : Check σ) : PollConfig :=
  match c.strategy with
  | .poll config => config
  | .consistent _ config => config

theorem wait_eq (c : Check σ) : c.wait = pollUntil c.driven c.timing := by
  unfold wait driven timing
  cases c.strategy with
  | poll config => rfl
  | consistent steady config => rfl

/-- The attempts of a check that begins in `s`: the evaluations that its loop makes. -/
def ticks (c : Check σ) (s : Session σ) : List (Evaluation σ) :=
  if s.cancelled then [] else pollCalls c.driven c.timing (c.waiting s)

theorem eq_driven_of_mem {c : Check σ} {s : Session σ} {tick : Evaluation σ}
    (h : tick ∈ c.ticks s) : tick = c.driven.evaluation .run tick.before := by
  unfold ticks at h
  by_cases hs : s.cancelled = true
  · rw [if_pos hs] at h
    cases h
  · rw [if_neg hs] at h
    exact ((pollUntil_run c.driven c.timing (c.waiting s)).of_mem tick h).1

theorem eq_tick_of_mem {c : Check σ} {steady : ConsistencyConfig} {config : PollConfig}
    (hstrategy : c.strategy = .consistent steady config) {s : Session σ} {tick : Evaluation σ}
    (h : tick ∈ c.ticks s) :
    tick = (c.predicate.consistently steady).evaluation .run tick.before := by
  have heq := eq_driven_of_mem h
  simp only [driven, hstrategy] at heq
  exact heq

theorem evaluations_of_poll {c : Check σ} {config : PollConfig} (h : c.strategy = .poll config)
    (s : Session σ) : c.evaluations s = c.ticks s := by
  unfold evaluations ticks driven timing
  simp only [h]

theorem evaluations_of_consistent {c : Check σ} {steady : ConsistencyConfig} {config : PollConfig}
    (h : c.strategy = .consistent steady config) (s : Session σ) :
    c.evaluations s =
      (c.ticks s).flatMap fun tick => tickCalls c.predicate steady tick.before := by
  unfold evaluations ticks driven timing
  simp only [h]
  cases s.cancelled <;> rfl

/-! ## What a check reports -/

/-- The report on a check of what came of its wait. -/
def reportOf (name : String) : PollResult → CheckReport
  | .ok summary => ⟨name, .passed summary⟩
  | .error e => ⟨name, if e.isCancelled then .cancelled e.message else .failed e.message⟩

theorem value_conclude (name : String) (start : Nat) (result : PollResult) (s : Session σ) :
    (conclude name start result).value s = reportOf name result := by
  cases result with
  | ok summary => rfl
  | error e =>
      unfold conclude reportOf
      cases hcancelled : e.isCancelled with
      | true =>
          simp only [hcancelled, if_true, Run.value_bind, Step.final_now]
          rfl
      | false =>
          simp only [hcancelled, Bool.false_eq_true, if_false, Run.value_bind, Step.final_now]
          rfl

theorem world_conclude (name : String) (start : Nat) (result : PollResult) (s : Session σ) :
    ((conclude name start result).final s).world = s.world := by
  cases result with
  | ok summary => rfl
  | error e =>
      unfold conclude
      cases hcancelled : e.isCancelled with
      | true =>
          simp only [hcancelled, if_true, Run.final_bind, Step.final_now]
          rfl
      | false =>
          simp only [hcancelled, Bool.false_eq_true, if_false, Run.final_bind, Step.final_now]
          rfl

theorem run_of_cancelled {c : Check σ} {s : Session σ} (hs : s.cancelled = true) :
    c.run.value s = ⟨c.name, .skipped "run cancelled"⟩ ∧
      c.run.final s = s.measured (.skipped c.name) := by
  unfold run
  rw [Run.value_bind, Run.final_bind, Step.value_cancelled, Step.final_cancelled, hs, if_pos rfl]
  exact ⟨rfl, rfl⟩

/-- A check in a run that goes on waits and reports what came of it, which takes no time. -/
theorem run_of_not_cancelled {c : Check σ} {s : Session σ} (hs : s.cancelled = false) :
    c.run.value s = reportOf c.name (c.wait.value (c.waiting s)) ∧
      (c.run.final s).world = (c.wait.final (c.waiting s)).world := by
  unfold run
  rw [Run.value_bind, Run.final_bind, Step.value_cancelled, Step.final_cancelled, hs,
    if_neg Bool.false_ne_true]
  exact ⟨value_conclude _ _ _ _, world_conclude _ _ _ _⟩

theorem name_run (c : Check σ) (s : Session σ) : (c.run.value s).name = c.name := by
  cases hs : s.cancelled with
  | true => rw [(run_of_cancelled hs).1]
  | false =>
      rw [(run_of_not_cancelled hs).1]
      cases c.wait.value (c.waiting s) <;> rfl

end Check

/-! ## Entries -/

/-- What a report of a suite is about: a check whose turn comes in a session, an action that is
refused, or the storage scenario of a run that is cancelled before it. -/
inductive Entry (σ : Type) where
  | turn (check : Check σ) (begun : Session σ)
  | refused (name : String) (error : ActionError)
  | stoodDown

namespace Entry

def report : Entry σ → CheckReport
  | turn check begun => check.run.value begun
  | refused name error => ⟨name, .failed error.message⟩
  | stoodDown => ⟨"storage", .skipped "run cancelled"⟩

def attempts : Entry σ → Nat
  | turn check begun => (check.ticks begun).length
  | refused _ _ => 0
  | stoodDown => 0

def elapsed : Entry σ → Duration
  | turn check begun => ⟨(check.run.final begun).now - begun.now⟩
  | refused _ _ => .zero
  | stoodDown => .zero

/-- The measurement that belongs to the report of an entry. -/
def measurement (e : Entry σ) : Measurement :=
  match e.report.outcome with
  | .passed _ => .resolved e.report.name .passed e.attempts e.elapsed
  | .failed _ => .resolved e.report.name .failed e.attempts e.elapsed
  | .cancelled _ => .resolved e.report.name .cancelled e.attempts e.elapsed
  | .skipped _ => .skipped e.report.name

theorem summary_of_passed
    {e : Entry σ} {summary : PollSummary} (h : e.report.outcome = .passed summary) :
    summary = ⟨e.attempts, e.elapsed⟩ := by
  cases e with
  | refused name error => cases h
  | stoodDown => cases h
  | turn c s =>
      simp only [report] at h
      cases hs : s.cancelled with
      | true =>
          rw [(Check.run_of_cancelled hs).1] at h
          cases h
      | false =>
          obtain ⟨hreport, hworld⟩ := Check.run_of_not_cancelled hs (c := c)
          rw [hreport] at h
          rw [Check.wait_eq] at h hworld
          have hnow : (c.run.final s).now =
              ((pollUntil c.driven c.timing).final (c.waiting s)).now := by
            rw [Session.now, hworld, Session.now]
          cases hvalue : (pollUntil c.driven c.timing).value (c.waiting s) with
          | ok passed =>
              rw [hvalue] at h
              cases h
              rw [summary_of_pollUntil_ok hvalue, attempts, elapsed, Check.ticks, hs, hnow,
                if_neg Bool.false_ne_true]
              rfl
          | error e =>
              rw [hvalue] at h
              cases hcancelled : e.isCancelled <;> simp [Check.reportOf, hcancelled] at h

theorem measurement_turn (c : Check σ) (s : Session σ) :
    (turn c s).measurement = c.measurement s := by
  unfold measurement Check.measurement
  cases hs : s.cancelled with
  | true =>
      simp only [report, (Check.run_of_cancelled hs).1, if_true]
  | false =>
      obtain ⟨hreport, hworld⟩ := Check.run_of_not_cancelled hs (c := c)
      have hnow : (c.run.final s).now = (c.wait.final (c.waiting s)).now := by
        rw [Session.now, hworld, Session.now]
      rw [if_neg Bool.false_ne_true]
      cases hvalue : c.wait.value (c.waiting s) with
      | ok summary =>
          have hpassed : (turn c s).report.outcome = .passed summary := by
            rw [report, hreport, hvalue]
            rfl
          have hsummary := summary_of_passed hpassed
          rw [hpassed, hsummary]
          simp only [report, Check.name_run, Check.measurementOf]
      | error e =>
          have hattempts : e.attempts = (turn c s).attempts := by
            rw [Check.wait_eq] at hvalue
            rw [attempts_of_pollUntil_error hvalue, attempts, Check.ticks, hs,
              if_neg Bool.false_ne_true]
          have helapsed : (turn c s).elapsed =
              ⟨(c.wait.final (c.waiting s)).now - s.now⟩ := by
            rw [elapsed, hnow]
          cases hcancelled : e.isCancelled <;>
            simp [report, hreport, hvalue, Check.reportOf, Check.measurementOf, hcancelled,
              hattempts, helapsed]

end Entry

/-! ## The ledger -/

/-- The turns of checks that run one after the other from `s`. -/
def Check.turns : List (Check σ) → Session σ → List (Entry σ)
  | [], _ => []
  | c :: rest, s => .turn c s :: turns rest (c.run.final s)

namespace Storage

/-- The entries of an action and the checks that follow it. -/
def actionEntries (action : Step σ ActionResult) (name : String) (checks : List (Check σ))
    (s : Session σ) : List (Entry σ) :=
  match action.value s with
  | .ok () => Check.turns checks (action.final s)
  | .error e => [.refused name e]

/-- The entries of a scenario that starts in `s` and whose namespace is created. -/
def entriesWithin (c : Context σ) (poll gone : PollConfig) (s : Session σ) : List (Entry σ) :=
  actionEntries (createProbe c.server c.scratch c.config.storage.storageClass)
      "storage-probe-created"
      [claimCheck c.server c.scratch poll, podCheck c.server c.scratch poll] (entered c s) ++
    actionEntries (deleteProbe c.server c.scratch) "storage-probe-deleted"
      [claimGoneCheck c.server c.scratch poll] (probed c poll s) ++
    actionEntries (deleteNamespace c.server c.scratch) "storage-namespace-deleted"
      [namespaceGoneCheck c.server c.scratch gone] (cleared c poll s)

/-- The entries of what follows a battery that ends in `s`. -/
def entries (c : Context σ) (poll gone : PollConfig) (s : Session σ) : List (Entry σ) :=
  if c.config.storage.enabled = false then []
  else if s.cancelled then [.stoodDown]
  else match (createNamespace c.server c.scratch).value (begun c s) with
    | .ok () => entriesWithin c poll gone s
    | .error e => [.refused "storage-namespace-created" e]

end Storage

def Context.ledger [Horizon] (c : Context σ) (s : Session σ) : List (Entry σ) :=
  match standardChecks c.server c.config, Storage.timing c.config with
  | .ok checks, .ok (poll, gone) =>
    Check.turns checks (c.started s) ++ Storage.entries c poll gone (c.afterBattery checks s)
  | _, _ => []

end ClusterReady

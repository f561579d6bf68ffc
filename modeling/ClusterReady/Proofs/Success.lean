import ClusterReady.Proofs.CheckRun
import ClusterReady.Proofs.Cleanup

/-!
# No false success

A run that reports success has not skipped, failed or cancelled anything: every check of the
battery has held, and where the storage scenario is enabled all of its actions are done and the
last read of each of its checks has found what the check asks for.
-/

namespace ClusterReady

variable {σ : Type}

/-! ## What the last read of a check has found -/

namespace Check

def LastRead (c : Check σ) (s : Session σ) (found : Session σ → Prop) : Prop :=
  ∃ e, (c.evaluations s).getLast? = some e ∧ e.verdict = .ok () ∧ found e.before

/-- The evaluations of a check are evaluations of its predicate. -/
theorem eq_evaluation_of_mem
    {c : Check σ} {s : Session σ} {e : Evaluation σ} (he : e ∈ c.evaluations s) :
    e = c.predicate.evaluation .run e.before := by
  unfold evaluations at he
  cases hs : s.cancelled with
  | true =>
      rw [hs, if_pos rfl] at he
      cases he
  | false =>
      rw [hs, if_neg Bool.false_ne_true] at he
      cases hstrategy : c.strategy with
      | poll config =>
          simp only [hstrategy] at he
          exact ((pollUntil_run c.predicate config (c.waiting s)).of_mem e he).1
      | consistent steady config =>
          simp only [hstrategy] at he
          obtain ⟨tick, -, he⟩ := List.mem_flatMap.mp he
          exact (streak_run c.predicate steady .run steady.required tick.before).of_mem e he

theorem Held.lastRead
    {c : Check σ} {s : Session σ} {found : Session σ → Prop} (h : c.Held s)
    (hfound : ∀ t, (c.predicate.check .run).value t = .ok () → found t) :
    c.LastRead s found := by
  obtain ⟨e, hlast, hv⟩ := h.last
  refine ⟨e, hlast, hv, hfound e.before ?_⟩
  rw [eq_evaluation_of_mem (List.mem_of_getLast? hlast)] at hv
  exact hv

theorem allHeld_singleton {c : Check σ} {s : Session σ} (h : AllHeld [c] s) : c.Held s :=
  h [] c [] rfl

theorem allHeld_pair {c d : Check σ} {s : Session σ} (h : AllHeld [c, d] s) :
    c.Held s ∧ d.Held (c.run.final s) :=
  ⟨h [] c [d] rfl, h [c] d [] rfl⟩

end Check

theorem claimBound_found
    {server : Server σ} {scope name : String} {token : Token} {s : Session σ}
    (h : ((claimBound server scope name).check token).value s = .ok ()) :
    ∃ claim, (server.get (Claim.type.within scope) Claim.type.decoder name).value s = .ok claim ∧
      claim.phase = "Bound" := by
  simp only [claimBound, Run.value_bind, Run.value_pure] at h
  cases hget : (server.get (Claim.type.within scope) Claim.type.decoder name).value s with
  | error e =>
      rw [hget] at h
      by_cases habsent : e.isNotFound = true
      · simp [Verdict.ofObject, habsent] at h
      · simp [Verdict.ofObject, habsent] at h
  | ok claim =>
      rw [hget] at h
      refine ⟨claim, rfl, ?_⟩
      by_contra hphase
      simp [Verdict.ofObject, evaluateClaim, hphase] at h

theorem podsRunning_found
    {server : Server σ} {scope selector : String} {token : Token} {s : Session σ}
    (h : ((podsRunning server scope selector).check token).value s = .ok ()) :
    ∃ pods, (server.list (Pod.type.within scope) Pod.type.decoder selector).value s = .ok pods ∧
      pods.items ≠ [] ∧ ∀ pod ∈ pods.items, pod.isHealthy = true := by
  simp only [podsRunning, Run.value_bind, Run.value_pure] at h
  cases hlist : (server.list (Pod.type.within scope) Pod.type.decoder selector).value s with
  | error e =>
      rw [hlist] at h
      cases h
  | ok pods =>
      rw [hlist] at h
      refine ⟨pods, rfl, ?_, ?_⟩
      · intro hnone
        simp [Verdict.of, evaluatePods, hnone] at h
      · intro pod hpod
        by_contra hsick
        have hunhealthy : pod ∈ pods.items.filter (!·.isHealthy) := by
          rw [List.mem_filter]
          exact ⟨hpod, by simp [hsick]⟩
        have hsome : (pods.items.filter (!·.isHealthy)).isEmpty = false :=
          List.isEmpty_eq_false_iff_exists_mem.mpr ⟨pod, hunhealthy⟩
        have hlisted : pods.items.isEmpty = false :=
          List.isEmpty_eq_false_iff_exists_mem.mpr ⟨pod, hpod⟩
        simp only [Verdict.of, evaluatePods, hlisted, hsome, Bool.false_eq_true, if_false] at h
        cases h

theorem resourceDeleted_found
    {α : Type} {server : Server σ} {c : Collection} {d : Json.Decoder α}
    {metadata : α → ObjectMeta} {kind name : String} {token : Token} {s : Session σ}
    (h : ((resourceDeleted server c d metadata kind name).check token).value s = .ok ()) :
    ∃ refusal, (server.get c d name).value s = .error refusal ∧ refusal.isNotFound = true := by
  simp only [resourceDeleted, Run.value_bind, Run.value_pure] at h
  cases hget : (server.get c d name).value s with
  | ok a =>
      rw [hget] at h
      cases h
  | error refusal =>
      rw [hget] at h
      refine ⟨refusal, rfl, ?_⟩
      by_contra hother
      simp [Verdict.ofObject, hother] at h

/-! ## The storage scenario -/

namespace Storage

/-- What a storage scenario has done and seen that starts in `s` and reports nothing but passed
checks. -/
structure Completed (c : Context σ) (poll gone : PollConfig) (s : Session σ) : Prop where
  started : s.cancelled = false
  namespaceCreated : (createNamespace c.server c.scratch).value (begun c s) = .ok ()
  probeCreated :
    (createProbe c.server c.scratch c.config.storage.storageClass).value (entered c s) = .ok ()
  claimBound : (claimCheck c.server c.scratch poll).LastRead
    ((createProbe c.server c.scratch c.config.storage.storageClass).final (entered c s))
    fun t => ∃ claim, (c.server.get (Claim.type.within c.scratch) Claim.type.decoder
      Manifest.probeClaim).value t = .ok claim ∧ claim.phase = "Bound"
  podRunning : (podCheck c.server c.scratch poll).LastRead
    ((claimCheck c.server c.scratch poll).run.final
      ((createProbe c.server c.scratch c.config.storage.storageClass).final (entered c s)))
    fun t => ∃ pods, (c.server.list (Pod.type.within c.scratch) Pod.type.decoder
      Manifest.managedSelector).value t = .ok pods ∧
        pods.items ≠ [] ∧ ∀ pod ∈ pods.items, pod.isHealthy = true
  probeDeleted : (deleteProbe c.server c.scratch).value (probed c poll s) = .ok ()
  claimGone : (claimGoneCheck c.server c.scratch poll).LastRead
    ((deleteProbe c.server c.scratch).final (probed c poll s))
    fun t => ∃ refusal, (c.server.get (Claim.type.within c.scratch) Claim.type.decoder
      Manifest.probeClaim).value t = .error refusal ∧ refusal.isNotFound = true
  namespaceDeleted : (deleteNamespace c.server c.scratch).value (cleared c poll s) = .ok ()
  namespaceGone : (namespaceGoneCheck c.server c.scratch gone).LastRead
    ((deleteNamespace c.server c.scratch).final (cleared c poll s))
    fun t => ∃ refusal, (c.server.get Namespace.type.all Namespace.type.decoder
      c.scratch).value t = .error refusal ∧ refusal.isNotFound = true

/-- When all reports of an action and its checks are of checks that passed, the action is done and
the checks have held. -/
theorem afterAction_passed
    {action : Step σ ActionResult} {name : String} {checks : List (Check σ)} {s : Session σ}
    (h : ∀ r ∈ (afterAction action name checks).value s, r.outcome.isPassed = true) :
    action.value s = .ok () ∧ Check.AllHeld checks (action.final s) := by
  unfold afterAction at h
  rw [Run.value_bind] at h
  cases haction : action.value s with
  | ok _ =>
      rw [haction] at h
      exact ⟨rfl, Check.allHeld_of_passed h⟩
  | error e =>
      rw [haction] at h
      have hfailed := h ⟨name, .failed e.message⟩ List.mem_cons_self
      cases hfailed

variable {c : Context σ} {poll gone : PollConfig} {s : Session σ}

theorem value_inNamespace (c : Context σ) (poll gone : PollConfig) (s : Session σ) :
    (inNamespace c c.scratch poll gone).value (entered c s) =
      (probeCreation c c.scratch poll).value (entered c s) ++
        (probeDeletion c c.scratch poll).value (probed c poll s) ++
        (namespaceDeletion c c.scratch gone).value (cleared c poll s) := by
  simp only [inNamespace, Run.value_bind, Run.value_pure, probed, cleared]

theorem inNamespace_passed
    (h : ∀ r ∈ (inNamespace c c.scratch poll gone).value (entered c s),
      r.outcome.isPassed = true) :
    (∀ r ∈ (probeCreation c c.scratch poll).value (entered c s), r.outcome.isPassed = true) ∧
      (∀ r ∈ (probeDeletion c c.scratch poll).value (probed c poll s),
        r.outcome.isPassed = true) ∧
      ∀ r ∈ (namespaceDeletion c c.scratch gone).value (cleared c poll s),
        r.outcome.isPassed = true := by
  rw [value_inNamespace] at h
  obtain ⟨hfirst, hgone⟩ := List.forall_mem_append.mp h
  obtain ⟨hcreated, hdeleted⟩ := List.forall_mem_append.mp hfirst
  exact ⟨hcreated, hdeleted, hgone⟩

/-- A scenario that was not cancelled before it started and reports nothing but passed checks in its
namespace is complete. -/
theorem completed_of_inNamespace
    (hs : s.cancelled = false)
    (hnamespace : (createNamespace c.server c.scratch).value (begun c s) = .ok ())
    (h : ∀ r ∈ (inNamespace c c.scratch poll gone).value (entered c s),
      r.outcome.isPassed = true) : Completed c poll gone s := by
  obtain ⟨hcreation, hdeletion, hremoval⟩ := inNamespace_passed h
  obtain ⟨hcreated, hseen⟩ := afterAction_passed hcreation
  obtain ⟨hbound, hrunning⟩ := Check.allHeld_pair hseen
  obtain ⟨hdeleted, hcleared⟩ := afterAction_passed hdeletion
  obtain ⟨hremoved, hgone⟩ := afterAction_passed hremoval
  exact {
    started := hs
    namespaceCreated := hnamespace
    probeCreated := hcreated
    claimBound := hbound.lastRead fun _ => claimBound_found
    podRunning := hrunning.lastRead fun _ => podsRunning_found
    probeDeleted := hdeleted
    claimGone := (Check.allHeld_singleton hcleared).lastRead fun _ => resourceDeleted_found
    namespaceDeleted := hremoved
    namespaceGone := (Check.allHeld_singleton hgone).lastRead fun _ => resourceDeleted_found }

theorem completed_of_run [Horizon]
    {stored : List CheckReport} (hs : s.cancelled = false)
    (hstored : (run c).value s = .ok stored)
    (h : ∀ r ∈ stored, r.outcome.isPassed = true) :
    ∃ poll gone, timing c.config = .ok (poll, gone) ∧ Completed c poll gone s := by
  cases htiming : timing c.config with
  | error fault =>
      simp only [run, htiming] at hstored
      cases hstored
  | ok times =>
      obtain ⟨poll, gone⟩ := times
      rw [run_bind c poll gone htiming, Run.value_bind, Run.value_bind] at hstored
      change (afterNamespace c poll gone ((createNamespace c.server c.scratch).value
        (begun c s))).value (entered c s) = _ at hstored
      cases hvalue : (createNamespace c.server c.scratch).value (begun c s) with
      | error e =>
          rw [hvalue] at hstored
          cases hstored
          have hfailed := h ⟨"storage-namespace-created", .failed e.message⟩ List.mem_cons_self
          cases hfailed
      | ok _ =>
          simp only [hvalue, afterNamespace, Run.value_bind, Run.value_pure,
            Except.ok.injEq] at hstored
          rw [← hstored] at h
          exact ⟨poll, gone, rfl, completed_of_inNamespace hs hvalue h⟩

/-- Where the scenario is enabled and reports nothing but passed checks it is complete. -/
theorem completed_of_runStorage [Horizon]
    {stored : List CheckReport} (henabled : c.config.storage.enabled = true)
    (hstored : (runStorage c).value s = .ok stored)
    (h : ∀ r ∈ stored, r.outcome.isPassed = true) :
    ∃ poll gone, timing c.config = .ok (poll, gone) ∧ Completed c poll gone s := by
  unfold runStorage runUnlessCancelled at hstored
  rw [if_pos henabled, Run.value_bind, Step.value_cancelled, Step.final_cancelled] at hstored
  cases hs : s.cancelled with
  | true =>
      rw [hs, if_pos rfl] at hstored
      cases hstored
      have hskipped := h ⟨"storage", .skipped "run cancelled"⟩ List.mem_cons_self
      cases hskipped
  | false =>
      rw [hs, if_neg Bool.false_ne_true] at hstored
      exact completed_of_run hs hstored h

end Storage

/-! ## The suite -/

theorem SuiteReport.passed_of_isSuccess {report : SuiteReport} (h : report.isSuccess = true) :
    ∀ r ∈ report.checks, r.outcome.isPassed = true := by
  simp only [isSuccess, Bool.and_eq_true, beq_iff_eq] at h
  exact List.countP_eq_length.mp h.2

/-- A suite that gives a report has its checks, and the report is what they and the storage scenario
have reported. -/
theorem runSuite_reports [Horizon]
    {c : Context σ} {s : Session σ} {report : SuiteReport}
    (h : (runSuite c).value s = .ok report) :
    ∃ checks stored, standardChecks c.server c.config = .ok checks ∧
      (runStorage c).value (c.afterBattery checks s) = .ok stored ∧
      report.checks = (Check.runAll checks).value (c.started s) ++ stored := by
  unfold runSuite at h
  rw [Run.value_bind] at h
  cases hchecks : standardChecks c.server c.config with
  | error fault =>
      rw [hchecks] at h
      cases h
  | ok checks =>
      simp only [hchecks] at h
      rw [Run.value_bind, Run.value_bind] at h
      generalize hstored : (runStorage c).value _ = result at h
      cases result with
      | error fault => cases h
      | ok stored =>
          cases h
          exact ⟨checks, stored, rfl, hstored, rfl⟩

/-- A run that reports success has not skipped, failed or cancelled anything. -/
theorem runSuite_success [Horizon]
    {c : Context σ} {s : Session σ} {report : SuiteReport}
    (hreport : (runSuite c).value s = .ok report) (hsuccess : report.isSuccess = true) :
    (∀ r ∈ report.checks, r.outcome.isPassed = true) ∧
      ∃ checks, standardChecks c.server c.config = .ok checks ∧
        Check.AllHeld checks (c.started s) ∧
        (c.config.storage.enabled = true →
          ∃ poll gone, Storage.timing c.config = .ok (poll, gone) ∧
            Storage.Completed c poll gone (c.afterBattery checks s)) := by
  have hpassed := SuiteReport.passed_of_isSuccess hsuccess
  obtain ⟨checks, stored, hchecks, hstored, hreports⟩ := runSuite_reports hreport
  have hall := hpassed
  rw [hreports] at hall
  obtain ⟨hbattery, hscenario⟩ := List.forall_mem_append.mp hall
  refine ⟨hpassed, checks, hchecks, Check.allHeld_of_passed hbattery, fun henabled => ?_⟩
  exact Storage.completed_of_runStorage henabled hstored hscenario

theorem healthy_success :
    ∃ report, (runSuite healthy).value healthyStart = .ok report ∧ report.isSuccess = true ∧
      (∀ r ∈ report.checks, r.outcome.isPassed = true) ∧
      ∃ checks, standardChecks healthy.server healthy.config = .ok checks ∧
        Check.AllHeld checks (healthy.started healthyStart) ∧
        (healthy.config.storage.enabled = true →
          ∃ poll gone, Storage.timing healthy.config = .ok (poll, gone) ∧
            Storage.Completed healthy poll gone (healthy.afterBattery checks healthyStart)) := by
  have hsuccess : ((runSuite healthy).value healthyStart).toOption.any SuiteReport.isSuccess =
      true := by
    decide +kernel
  cases hreport : (runSuite healthy).value healthyStart with
  | error fault =>
      rw [hreport] at hsuccess
      cases hsuccess
  | ok report =>
      rw [hreport] at hsuccess
      exact ⟨report, rfl, hsuccess, runSuite_success hreport hsuccess⟩

end ClusterReady

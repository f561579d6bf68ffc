import ClusterReady.Proofs.LedgerRun

/-!
# Complete reports

A suite reports each check of its battery once and in the order of the battery, whatever comes of
it.  After these stand the reports of the storage scenario, whose shape is known from the answers
of its actions.
-/

namespace ClusterReady

variable {σ : Type}

/-! ## The battery -/

/-- The names of the checks in the battery of a configuration. -/
def SuiteConfig.checkNames (c : SuiteConfig) : List String :=
  (if c.provider ≠ .eks ∧ c.controlPlane.isSome then ["control-plane-nodes-ready"] else []) ++
    ["worker-nodes-ready", "system-deployments-ready", "system-daemonsets-ready",
      "system-statefulsets-ready", "system-pods-running"] ++
    (if c.clusterResource.isSome then ["cluster-resource-ready"] else []) ++
    c.certificates.map (fun n => "certificate-" ++ n.scope ++ "-" ++ n.name ++ "-ready") ++
    (if c.metricsApi then ["metrics-api-available"] else [])

theorem Battery.names_controlPlane [Horizon]
    {server : Server σ} {c : SuiteConfig} {checks : List (Check σ)}
    (h : controlPlane server c = .ok checks) :
    checks.map Check.name =
      if c.provider ≠ .eks ∧ c.controlPlane.isSome then ["control-plane-nodes-ready"] else [] := by
  unfold controlPlane at h
  cases hpool : c.controlPlane with
  | none =>
      rw [hpool] at h
      cases h
      simp
  | some pool =>
      simp only [hpool] at h
      by_cases hvisible : c.provider.hasVisibleControlPlane = true
      · have hregistered := Provider.hasVisibleControlPlane_iff.mp hvisible
        rw [if_pos hvisible] at h
        obtain ⟨poll, -, h⟩ := exists_ok_of_bind h
        cases h
        rw [if_pos ⟨hregistered, rfl⟩]
        rfl
      · have hmanaged := mt Provider.hasVisibleControlPlane_iff.mpr hvisible
        rw [if_neg hvisible] at h
        cases h
        rw [if_neg fun both => hmanaged both.1]
        rfl

theorem Battery.name_workers [Horizon]
    {server : Server σ} {c : SuiteConfig} {check : Check σ}
    (h : workers server c = .ok check) : check.name = "worker-nodes-ready" := by
  obtain ⟨poll, -, h⟩ := exists_ok_of_bind h
  cases h
  rfl

theorem names_standardChecks [Horizon]
    {server : Server σ} {c : SuiteConfig} {checks : List (Check σ)}
    (h : standardChecks server c = .ok checks) : checks.map Check.name = c.checkNames := by
  obtain ⟨poll, -, h⟩ := exists_ok_of_bind h
  obtain ⟨steady, -, h⟩ := exists_ok_of_bind h
  obtain ⟨planes, hplanes, h⟩ := exists_ok_of_bind h
  obtain ⟨pool, hpool, h⟩ := exists_ok_of_bind h
  cases h
  have hsystem : ∀ strategy : Strategy,
      (WorkloadKind.all.map (Battery.systemWorkloads server c strategy)).map Check.name =
        ["system-deployments-ready", "system-daemonsets-ready", "system-statefulsets-ready"] := by
    intro strategy
    have hlower :
        WorkloadKind.all.map (fun kind => "system-" ++ Text.lower kind.name ++ "s-ready") =
        ["system-deployments-ready", "system-daemonsets-ready", "system-statefulsets-ready"] := by
      decide
    rw [← hlower, List.map_map]
    rfl
  have hresource : ∀ strategy : Strategy,
      (c.clusterResource.toList.map (Battery.clusterResource server strategy)).map Check.name =
        if c.clusterResource.isSome then ["cluster-resource-ready"] else [] := by
    intro strategy
    cases c.clusterResource <;> rfl
  have hmetrics : ∀ strategy : Strategy,
      ((if c.metricsApi then [Battery.metricsApi server strategy] else []).map Check.name) =
        if c.metricsApi then ["metrics-api-available"] else [] := by
    intro strategy
    cases c.metricsApi <;> rfl
  unfold SuiteConfig.checkNames
  simp only [List.map_append, Battery.names_controlPlane hplanes, hsystem, hresource, hmetrics,
    List.map_map, List.map_cons, List.map_nil, Battery.name_workers hpool]
  simp only [List.append_assoc, List.cons_append, List.nil_append]
  rfl

theorem Check.names_turns (checks : List (Check σ)) (s : Session σ) :
    ((turns checks s).map Entry.report).map CheckReport.name = checks.map Check.name := by
  induction checks generalizing s with
  | nil => rfl
  | cons c rest ih =>
      have hname : (Entry.turn c s).report.name = c.name := name_run c s
      rw [turns, List.map_cons, List.map_cons, List.map_cons, hname, ih]

/-! ## The storage scenario -/

/-- The reports of an action that is tried in `s`, and of the checks that follow it: the checks
have these names, and in their place stands the failure of the action when it is refused. -/
structure ActionReports (action : Step σ ActionResult) (failure : String) (names : List String)
    (s : Session σ) (reports : List CheckReport) : Prop where
  done : action.value s = .ok () → reports.map CheckReport.name = names
  refused : ∀ e, action.value s = .error e → reports = [⟨failure, .failed e.message⟩]

/-- The reports that follow a battery which ends in `s`.  They are none or one where the scenario is
disabled, skipped or refused its namespace; otherwise they have three parts, none of which depends
on what comes of another. -/
structure StorageReports (c : Context σ) (poll : PollConfig) (s : Session σ)
    (reports : List CheckReport) : Prop where
  disabled : c.config.storage.enabled = false → reports = []
  skipped : c.config.storage.enabled = true → s.cancelled = true →
    reports = [⟨"storage", .skipped "run cancelled"⟩]
  refused : c.config.storage.enabled = true → s.cancelled = false →
    ∀ e, (createNamespace c.server c.scratch).value (Storage.begun c s) = .error e →
      reports = [⟨"storage-namespace-created", .failed e.message⟩]
  carriedOut : c.config.storage.enabled = true → s.cancelled = false →
    (createNamespace c.server c.scratch).value (Storage.begun c s) = .ok () →
    ∃ created deleted removed, reports = created ++ deleted ++ removed ∧
      ActionReports (createProbe c.server c.scratch c.config.storage.storageClass)
        "storage-probe-created" ["storage-pvc-bound", "storage-pod-running"]
        (Storage.entered c s) created ∧
      ActionReports (deleteProbe c.server c.scratch)
        "storage-probe-deleted" ["storage-pvc-deleted"] (Storage.probed c poll s) deleted ∧
      ActionReports (deleteNamespace c.server c.scratch)
        "storage-namespace-deleted" ["storage-namespace-deleted"]
        (Storage.cleared c poll s) removed

namespace Storage

theorem reports_actionEntries
    (action : Step σ ActionResult) (failure : String) (checks : List (Check σ)) (s : Session σ) :
    ActionReports action failure (checks.map Check.name) s
      ((actionEntries action failure checks s).map Entry.report) := by
  constructor
  · intro hdone
    rw [actionEntries, hdone]
    exact Check.names_turns checks (action.final s)
  · intro e hrefused
    rw [actionEntries, hrefused]
    rfl

theorem reports_entries (c : Context σ) (poll gone : PollConfig) (s : Session σ) :
    StorageReports c poll s ((entries c poll gone s).map Entry.report) := by
  constructor
  · intro hdisabled
    rw [entries, if_pos hdisabled, List.map_nil]
  · intro henabled hs
    rw [entries, henabled, if_neg Bool.true_eq_false.mp, if_pos hs]
    rfl
  · intro henabled hs e hrefused
    rw [entries, henabled, hs, hrefused]
    rfl
  · intro henabled hs hdone
    have hcreated := reports_actionEntries
      (createProbe c.server c.scratch c.config.storage.storageClass) "storage-probe-created"
      [claimCheck c.server c.scratch poll, podCheck c.server c.scratch poll] (entered c s)
    have hdeleted := reports_actionEntries (deleteProbe c.server c.scratch)
      "storage-probe-deleted" [claimGoneCheck c.server c.scratch poll] (probed c poll s)
    have hremoved := reports_actionEntries (deleteNamespace c.server c.scratch)
      "storage-namespace-deleted" [namespaceGoneCheck c.server c.scratch gone] (cleared c poll s)
    refine ⟨_, _, _, ?_, hcreated, hdeleted, hremoved⟩
    rw [entries, henabled, hs, hdone, ← List.map_append, ← List.map_append]
    rfl

end Storage

/-! ## The suite -/

/-- A run that has its checks reports each of them, in their order, and then appends what is to be
reported of the storage scenario. -/
theorem runSuite_complete [Horizon]
    {c : Context σ} {checks : List (Check σ)}
    (hchecks : standardChecks c.server c.config = .ok checks) (s : Session σ) :
    ∃ poll gone battery stored, Storage.timing c.config = .ok (poll, gone) ∧
      (runSuite c).value s =
        .ok ⟨c.config.provider, c.config.clusterName, battery ++ stored⟩ ∧
      battery = (Check.runAll checks).value (c.started s) ∧
      battery.map CheckReport.name = checks.map Check.name ∧
      checks.map Check.name = c.config.checkNames ∧
      (runStorage c).value (c.afterBattery checks s) = .ok stored ∧
      StorageReports c poll (c.afterBattery checks s) stored := by
  obtain ⟨poll, gone, htiming⟩ := Storage.exists_timing_of_checks hchecks
  have hfiled := Check.runAll_filed (standardChecks_readsOnce hchecks) (c.started s)
  have hstored := Storage.runStorage_filed c poll gone htiming (c.afterBattery checks s)
  have hreport := (runSuite_filed hchecks s).value_eq
  have hledger : c.ledger s = Check.turns checks (c.started s) ++
      Storage.entries c poll gone (c.afterBattery checks s) := by
    rw [Context.ledger, hchecks, htiming]
  rw [hledger, List.map_append] at hreport
  refine ⟨poll, gone, _, _, htiming, hreport, hfiled.value_eq.symm, ?_, ?_, hstored.value_eq, ?_⟩
  · exact Check.names_turns checks (c.started s)
  · exact names_standardChecks hchecks
  · exact Storage.reports_entries c poll gone (c.afterBattery checks s)

theorem healthy_complete :
    ∃ checks, standardChecks healthy.server healthy.config = .ok checks ∧
      ∃ poll gone battery stored, Storage.timing healthy.config = .ok (poll, gone) ∧
        (runSuite healthy).value healthyStart =
          .ok ⟨healthy.config.provider, healthy.config.clusterName, battery ++ stored⟩ ∧
        battery = (Check.runAll checks).value (healthy.started healthyStart) ∧
        battery.map CheckReport.name = checks.map Check.name ∧
        checks.map Check.name = healthy.config.checkNames ∧
        (runStorage healthy).value (healthy.afterBattery checks healthyStart) = .ok stored ∧
        StorageReports healthy poll (healthy.afterBattery checks healthyStart) stored := by
  have hvalid : healthy.config.validate = .ok () := rfl
  obtain ⟨checks, hchecks⟩ :=
    exists_standardChecks (SuiteConfig.timed_of_validate hvalid) healthy.server
  exact ⟨checks, hchecks, runSuite_complete hchecks healthyStart⟩

end ClusterReady

import ClusterReady.Proofs.Completeness

/-!
# A configuration is refused before anything happens

The timings of a run are made from its configuration twice: for the battery before anything is
sent, and for the storage scenario when the battery is over.  What the first time has accepted the
second does not refuse: a timeout is accepted by its length alone, and the one that is derived from
an accepted timing is not too long.  So a run either ends before its first check or gives all of its
reports.
-/

namespace ClusterReady

open Session (Trail)

variable {σ : Type}

/-- The end of the namespace is awaited for five minutes, or for an interval when that is longer. -/
theorem Storage.namespacePoll_spec [Horizon]
    {poll gone : PollConfig} (h : namespacePoll poll = .ok gone) :
    gone.timeout = ⟨max namespaceTimeout.nanos poll.interval.nanos⟩ ∧
      gone.interval = poll.interval :=
  (PollConfig.make_eq_ok_iff.mp (ok_of_mapError h)).1

theorem Storage.afterNamespace_reports
    (c : Context σ) (poll gone : PollConfig) (result : ActionResult) (s : Session σ) :
    ∃ stored, (afterNamespace c poll gone result).value s = .ok stored := by
  unfold afterNamespace
  cases result with
  | ok _ =>
      simp only [Run.value_bind, Run.value_pure]
      exact ⟨_, rfl⟩
  | error e =>
      simp only [Run.value_bind, Run.value_pure]
      exact ⟨_, rfl⟩

theorem Storage.run_reports [Horizon]
    {c : Context σ} {poll gone : PollConfig} (htiming : timing c.config = .ok (poll, gone))
    (s : Session σ) : ∃ stored, (run c).value s = .ok stored := by
  rw [run_bind c poll gone htiming, Run.value_bind, Run.value_bind]
  exact afterNamespace_reports c poll gone _ _

/-- A run whose battery is refused is over when it has told of its start. -/
theorem runSuite_refused [Horizon]
    {c : Context σ} {fault : InvalidConfig} (h : standardChecks c.server c.config = .error fault)
    (s : Session σ) :
    (runSuite c).value s = .error fault ∧ (runSuite c).final s = c.started s := by
  unfold runSuite
  rw [Run.value_bind, Run.final_bind, h]
  exact ⟨rfl, rfl⟩

/-- What a run from `s` does with the fault of its configuration, or without one.  It is `refused`
just when its battery is, and then it has done nothing; with its battery it has both timings of the
storage `scenario`, so that no report is lost. -/
structure AllOrNothing [Horizon] (c : Context σ) (s : Session σ) : Prop where
  refused_iff : ∀ fault, (runSuite c).value s = .error fault ↔
    standardChecks c.server c.config = .error fault
  untouched : ∀ fault, (runSuite c).value s = .error fault →
    requestTrail.between s ((runSuite c).final s) = [] ∧
      measurementTrail.between s ((runSuite c).final s) = [] ∧
      ((runSuite c).final s).world = s.world
  scenario : ∀ checks, standardChecks c.server c.config = .ok checks →
    (∃ poll gone, c.config.poll = .ok poll ∧ Storage.namespacePoll poll = .ok gone ∧
      gone.timeout = ⟨max namespaceTimeout.nanos poll.interval.nanos⟩ ∧
      gone.interval = poll.interval) ∧
    ∀ t, ∃ stored, (Storage.run c).value t = .ok stored
  reported : ∀ checks, standardChecks c.server c.config = .ok checks →
    ∃ stored, (runSuite c).value s = .ok ⟨c.config.provider, c.config.clusterName,
      (Check.runAll checks).value (c.started s) ++ stored⟩
  valid : c.config.validate = .ok () →
    (∃ checks, standardChecks c.server c.config = .ok checks) ∧
      ∃ report, (runSuite c).value s = .ok report

/-- Whatever the configuration, the server and the cancellation, a run is refused before it does
anything or gives all of its reports, and with a valid configuration it is not refused. -/
theorem runSuite_allOrNothing [Horizon] (c : Context σ) (s : Session σ) : AllOrNothing c s := by
  have hreported : ∀ checks, standardChecks c.server c.config = .ok checks →
      ∃ stored, (runSuite c).value s = .ok ⟨c.config.provider, c.config.clusterName,
        (Check.runAll checks).value (c.started s) ++ stored⟩ := by
    intro checks hchecks
    have hfiled := runSuite_filed hchecks s
    obtain ⟨report, hreport⟩ : ∃ report, (runSuite c).value s = .ok report :=
      ⟨_, hfiled.value_eq⟩
    obtain ⟨found, stored, hfound, -, hall⟩ := runSuite_reports hreport
    cases hchecks.symm.trans hfound
    cases hfiled.value_eq.symm.trans hreport
    exact ⟨stored, hreport.trans (by rw [← hall])⟩
  have hrefused : ∀ fault, (runSuite c).value s = .error fault ↔
      standardChecks c.server c.config = .error fault := by
    intro fault
    cases hchecks : standardChecks c.server c.config with
    | error found =>
        rw [(runSuite_refused hchecks s).1]
        simp
    | ok checks =>
        obtain ⟨stored, hreport⟩ := hreported checks hchecks
        rw [hreport]
        simp
  constructor
  · exact hrefused
  · intro fault hfault
    rw [(runSuite_refused ((hrefused fault).mp hfault) s).2]
    exact ⟨(Trail.Adds.note _ s).between_eq, (Trail.Adds.note _ s).between_eq, rfl⟩
  · intro checks hchecks
    obtain ⟨poll, hpoll, -⟩ := exists_ok_of_bind hchecks
    obtain ⟨gone, hgone⟩ := Storage.exists_namespacePoll (SuiteConfig.fits_of_poll hpoll)
    obtain ⟨htimeout, hinterval⟩ := Storage.namespacePoll_spec hgone
    obtain ⟨_, _, htiming⟩ := Storage.exists_timing_of_checks hchecks
    exact ⟨⟨poll, gone, hpoll, hgone, htimeout, hinterval⟩, Storage.run_reports htiming⟩
  · exact hreported
  · intro hvalid
    obtain ⟨checks, hchecks⟩ :=
      exists_standardChecks (SuiteConfig.timed_of_validate hvalid) c.server
    obtain ⟨stored, hreport⟩ := hreported checks hchecks
    exact ⟨⟨checks, hchecks⟩, _, hreport⟩

/-- The healthy cluster under a configuration that would read without a pause. -/
def hasty : Context Bool :=
  { healthy with config := { healthy.config with polling := { intervalSecs := 0 } } }

/-- This configuration is refused and leaves no trace, and the valid one gives a report. -/
theorem hasty_refused :
    (runSuite hasty).value healthyStart = .error (.wait .zeroInterval) ∧
      requestTrail.between healthyStart ((runSuite hasty).final healthyStart) = [] ∧
      measurementTrail.between healthyStart ((runSuite hasty).final healthyStart) = [] ∧
      healthy.config.validate = .ok () ∧
      ∃ report, (runSuite healthy).value healthyStart = .ok report := by
  have hinvalid : standardChecks hasty.server hasty.config = .error (.wait .zeroInterval) := rfl
  have hvalid : healthy.config.validate = .ok () := rfl
  have hasty_run := runSuite_allOrNothing hasty healthyStart
  have hrefused := (hasty_run.refused_iff _).mpr hinvalid
  obtain ⟨hrequests, hmeasurements, -⟩ := hasty_run.untouched _ hrefused
  have hreport := ((runSuite_allOrNothing healthy healthyStart).valid hvalid).2
  exact ⟨hrefused, hrequests, hmeasurements, hvalid, hreport⟩

end ClusterReady

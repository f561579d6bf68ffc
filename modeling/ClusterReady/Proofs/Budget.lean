import ClusterReady.Proofs.Atomicity
import ClusterReady.Proofs.TimeLimit

/-!
# The time budget of a suite

The longest time that a suite can take is known from its configuration and from the time in which
the server answers.  A check has its timeout and one evaluation more; the storage scenario has six
requests of its own and four checks, the last of which has the time of the namespace.
-/

namespace ClusterReady

open Step (Takes)

variable {σ : Type}

/-! ## The battery -/

namespace SuiteConfig

variable (c : SuiteConfig) (span : Nat)

/-- The pools whose nodes the suite looks at. -/
def seenPools : List NodePool :=
  (if c.provider.hasVisibleControlPlane then c.controlPlane.toList else []) ++ [c.workers]

def poolBudget (pool : NodePool) : Nat :=
  (Duration.ofSecs (pool.timeoutSecs.getD c.polling.timeoutSecs).toNat).nanos + span

def pollBudget : Nat := (Duration.ofSecs c.polling.timeoutSecs.toNat).nanos + span

/-- The time for a condition that has to be found several times in a row. -/
def steadyBudget : Nat :=
  (Duration.ofSecs c.polling.timeoutSecs.toNat).nanos +
    (c.consistency.requiredSuccesses.toNat * span +
      (c.consistency.requiredSuccesses.toNat - 1) *
        (Duration.ofSecs c.consistency.delaySecs.toNat).nanos)

/-- The time for the battery: the nodes, the workloads and pods of the system, and the objects that
have to be ready. -/
def batteryBudget : Nat :=
  (c.seenPools.map fun pool => c.poolBudget span pool).sum +
    (WorkloadKind.all.length + 1) * c.steadyBudget span +
    (c.clusterResource.toList.length + c.certificates.length + (if c.metricsApi then 1 else 0)) *
      c.pollBudget span

/-- The time for the storage scenario: six requests, three checks with the general timeout, and the
end of the namespace. -/
def storageBudget : Nat :=
  if c.storage.enabled then
    6 * span + 3 * c.pollBudget span +
      (max namespaceTimeout.nanos (Duration.ofSecs c.polling.intervalSecs.toNat).nanos + span)
  else 0

variable {c}

theorem steady_spec {steady : ConsistencyConfig} (h : c.steady = .ok steady) :
    steady.required = c.consistency.requiredSuccesses.toNat ∧
      steady.delay = .ofSecs c.consistency.delaySecs.toNat :=
  ConsistencyConfig.make_eq_ok_iff.mp (ok_of_mapError h)

variable [Horizon]

theorem pollWithin_spec {secs : UInt64} {poll : PollConfig} (h : c.pollWithin secs = .ok poll) :
    poll.timeout = .ofSecs secs.toNat ∧ poll.interval = .ofSecs c.polling.intervalSecs.toNat :=
  (PollConfig.make_eq_ok_iff.mp (ok_of_mapError h)).1

theorem budget_poolPoll {pool : NodePool} {poll : PollConfig} (h : c.poolPoll pool = .ok poll) :
    (Strategy.poll poll).budget span = c.poolBudget span pool := by
  rw [Strategy.budget, (pollWithin_spec h).1, poolBudget]

theorem budget_poll {poll : PollConfig} (h : c.poll = .ok poll) :
    (Strategy.poll poll).budget span = c.pollBudget span := by
  rw [Strategy.budget, (pollWithin_spec h).1, pollBudget]

theorem budget_steady {poll : PollConfig} {steady : ConsistencyConfig} (h : c.poll = .ok poll)
    (hsteady : c.steady = .ok steady) :
    (Strategy.consistent steady poll).budget span = c.steadyBudget span := by
  obtain ⟨hrequired, hdelay⟩ := steady_spec hsteady
  rw [Strategy.budget, (pollWithin_spec h).1, hrequired, hdelay, steadyBudget]

end SuiteConfig

namespace Check

variable {span : Nat}

theorem totalBudget_append (first second : List (Check σ)) :
    totalBudget span (first ++ second) = totalBudget span first + totalBudget span second := by
  rw [totalBudget, List.map_append, List.sum_append]
  rfl

theorem totalBudget_map
    {ι : Type} {time : Nat} (make : ι → Check σ) (h : ∀ i, (make i).strategy.budget span = time)
    (sources : List ι) : totalBudget span (sources.map make) = sources.length * time := by
  have heach : (fun c : Check σ => c.strategy.budget span) ∘ make = fun _ => time := funext h
  rw [totalBudget, List.map_map, heach, List.map_const', List.sum_replicate_nat]

end Check

theorem Battery.totalBudget_controlPlane [Horizon]
    {server : Server σ} {c : SuiteConfig} {checks : List (Check σ)} {span : Nat}
    (h : controlPlane server c = .ok checks) :
    Check.totalBudget span checks =
      ((if c.provider.hasVisibleControlPlane then c.controlPlane.toList else []).map
        fun pool => c.poolBudget span pool).sum := by
  unfold controlPlane at h
  cases hpool : c.controlPlane with
  | none =>
      simp only [hpool] at h
      cases h
      simp [Check.totalBudget]
  | some pool =>
      cases hvisible : c.provider.hasVisibleControlPlane with
      | false =>
          simp only [hpool, hvisible, Bool.false_eq_true, if_false] at h
          cases h
          rfl
      | true =>
          simp only [hpool, hvisible, if_true] at h
          obtain ⟨poll, hpoll, h⟩ := exists_ok_of_bind h
          cases h
          have hbudget := SuiteConfig.budget_poolPoll span hpoll
          simp [Check.totalBudget, hbudget]

theorem Battery.totalBudget_workers [Horizon]
    {server : Server σ} {c : SuiteConfig} {check : Check σ} {span : Nat}
    (h : workers server c = .ok check) :
    check.strategy.budget span = c.poolBudget span c.workers := by
  obtain ⟨poll, hpoll, h⟩ := exists_ok_of_bind h
  cases h
  exact SuiteConfig.budget_poolPoll span hpoll

/-- The checks of the battery have the time that the configuration says. -/
theorem standardChecks_totalBudget [Horizon]
    {server : Server σ} {c : SuiteConfig} {checks : List (Check σ)} {span : Nat}
    (h : standardChecks server c = .ok checks) :
    Check.totalBudget span checks = c.batteryBudget span := by
  obtain ⟨poll, hpoll, h⟩ := exists_ok_of_bind h
  obtain ⟨steady, hsteady, h⟩ := exists_ok_of_bind h
  obtain ⟨planes, hplanes, h⟩ := exists_ok_of_bind h
  obtain ⟨pool, hpool, h⟩ := exists_ok_of_bind h
  cases h
  have honce := SuiteConfig.budget_poll span hpoll
  have hlasting := SuiteConfig.budget_steady span hpoll hsteady
  have hworkloads := Check.totalBudget_map
    (Battery.systemWorkloads server c (.consistent steady poll)) (fun _ => hlasting)
    WorkloadKind.all
  have hresource := Check.totalBudget_map (Battery.clusterResource server (.poll poll))
    (fun _ => honce) c.clusterResource.toList
  have hcertificates := Check.totalBudget_map (Battery.certificate server (.poll poll))
    (fun _ => honce) c.certificates
  have hpods : Check.totalBudget span
      [Battery.systemPods server c (.consistent steady poll)] = c.steadyBudget span := hlasting
  have hworkers : Check.totalBudget span [pool] = c.poolBudget span c.workers :=
    Battery.totalBudget_workers hpool
  have hmetrics : Check.totalBudget span
      (if c.metricsApi then [Battery.metricsApi server (.poll poll)] else []) =
        (if c.metricsApi then 1 else 0) * c.pollBudget span := by
    cases c.metricsApi with
    | false => exact (Nat.zero_mul _).symm
    | true =>
        rw [if_pos rfl, if_pos rfl, Nat.one_mul]
        exact honce
  simp only [Check.totalBudget_append, hworkloads, hresource, hcertificates, hmetrics, hpods,
    hworkers, Battery.totalBudget_controlPlane hplanes]
  rw [SuiteConfig.batteryBudget, SuiteConfig.seenPools, List.map_append, List.sum_append]
  simp only [Nat.add_mul, Nat.one_mul, List.map_cons, List.map_nil, List.sum_singleton]
  omega

/-! ## The storage scenario -/

namespace Storage

variable {c : Context σ} {span : Nat}

theorem timing_spec [Horizon] {config : SuiteConfig} {poll gone : PollConfig}
    (h : timing config = .ok (poll, gone)) :
    config.poll = .ok poll ∧ namespacePoll poll = .ok gone := by
  obtain ⟨found, hpoll, h⟩ := exists_ok_of_bind h
  obtain ⟨made, hgone, h⟩ := exists_ok_of_bind h
  cases h
  exact ⟨hpoll, hgone⟩

theorem budget_namespacePoll [Horizon]
    (span : Nat) {config : SuiteConfig} {poll gone : PollConfig} (hpoll : config.poll = .ok poll)
    (hgone : namespacePoll poll = .ok gone) :
    (Strategy.poll gone).budget span =
      max namespaceTimeout.nanos (Duration.ofSecs config.polling.intervalSecs.toNat).nanos +
        span := by
  rw [Strategy.budget, (namespacePoll_spec hgone).1, (SuiteConfig.pollWithin_spec hpoll).2]

theorem afterAction_takes
    {action : Step σ ActionResult} {time : Nat} (haction : Takes action time) (name : String)
    {checks : List (Check σ)} (hchecks : ∀ check ∈ checks, check.LooksUp c.server)
    (hserver : c.server.AnswersWithin span) :
    Takes (afterAction action name checks) (time + Check.totalBudget span checks) := by
  refine haction.bind fun answer => ?_
  cases answer with
  | ok _ =>
      exact Check.runAll_takes fun check hcheck => (hchecks check hcheck).takes hserver
  | error e =>
      exact Takes.of_zero ((CheckReport.fail_takes name e.message).before fun _ => Takes.pure _)

theorem inNamespace_takes
    {poll gone : PollConfig} {once last : Nat} (hpoll : (Strategy.poll poll).budget span = once)
    (hgone : (Strategy.poll gone).budget span = last) (hserver : c.server.AnswersWithin span) :
    Takes (inNamespace c c.scratch poll gone) (5 * span + 3 * once + last) := by
  have hcreated : Takes (probeCreation c c.scratch poll) (span + span + (once + once)) := by
    have htotal : Check.totalBudget span [claimCheck c.server c.scratch poll,
        podCheck c.server c.scratch poll] = once + once := by
      rw [← hpoll]
      rfl
    rw [← htotal]
    exact afterAction_takes (createProbe_takes hserver _ _) _ (creationChecks_lookUp _ _ _) hserver
  have hdeleted : Takes (probeDeletion c c.scratch poll) (span + span + once) := by
    rw [← hpoll]
    exact afterAction_takes (deleteProbe_takes hserver _) _ (deletionChecks_lookUp _ _ _) hserver
  have hremoved : Takes (namespaceDeletion c c.scratch gone) (span + last) := by
    rw [← hgone]
    exact afterAction_takes (deleteNamespace_takes hserver _) _ (removalChecks_lookUp _ _ _) hserver
  have hall : Takes (inNamespace c c.scratch poll gone)
      (span + span + (once + once) + (span + span + once + (span + last))) := by
    refine hcreated.bind fun created => hdeleted.bind fun deleted => ?_
    exact hremoved.before fun removed => Takes.pure _
  exact hall.mono (by omega)

theorem afterNamespace_takes
    {poll gone : PollConfig} {once last : Nat} (hpoll : (Strategy.poll poll).budget span = once)
    (hgone : (Strategy.poll gone).budget span = last) (hserver : c.server.AnswersWithin span)
    (answer : ActionResult) :
    Takes (afterNamespace c poll gone answer) (5 * span + 3 * once + last) := by
  cases answer with
  | ok _ => exact (inNamespace_takes hpoll hgone hserver).before fun _ => Takes.pure _
  | error e =>
      exact Takes.of_zero ((CheckReport.fail_takes _ e.message).before fun _ => Takes.pure _)

/-- What follows the battery has the time that the configuration says. -/
theorem runStorage_takes [Horizon]
    {poll gone : PollConfig} (htiming : timing c.config = .ok (poll, gone))
    (hserver : c.server.AnswersWithin span) :
    Takes (runStorage c) (c.config.storageBudget span) := by
  unfold runStorage SuiteConfig.storageBudget
  cases c.config.storage.enabled with
  | false => exact Takes.pure _
  | true =>
      simp only [if_true]
      refine Takes.cancelled.after fun cancelled => ?_
      cases cancelled with
      | true =>
          exact Takes.of_zero ((CheckReport.skip_takes "storage").before fun _ => Takes.pure _)
      | false =>
          obtain ⟨hpoll, hgone⟩ := timing_spec htiming
          have hafter := afterNamespace_takes (SuiteConfig.budget_poll span hpoll)
            (budget_namespacePoll span hpoll hgone) hserver
          simp only [Bool.false_eq_true, if_false]
          rw [run_bind c poll gone htiming]
          refine (Takes.note _).after fun _ => ?_
          exact ((createNamespace_takes hserver c.scratch).bind hafter).mono (by omega)

end Storage

/-! ## The suite -/

/-- A run with a valid configuration ends with a report, and when the server answers within `span`
it ends within the time that the configuration says: whatever the server answers, and whenever the
run is cancelled. -/
theorem runSuite_budget [Horizon]
    {c : Context σ} {span : Nat} (hvalid : c.config.validate = .ok ())
    (hserver : c.server.AnswersWithin span) (s : Session σ) :
    ∃ checks report, standardChecks c.server c.config = .ok checks ∧
      Check.totalBudget span checks = c.config.batteryBudget span ∧
      (runSuite c).value s = .ok report ∧
      (c.afterBattery checks s).now ≤ s.now + c.config.batteryBudget span ∧
      ((runSuite c).final s).now ≤
        s.now + c.config.batteryBudget span + c.config.storageBudget span := by
  obtain ⟨checks, hchecks⟩ := exists_standardChecks (SuiteConfig.timed_of_validate hvalid) c.server
  obtain ⟨poll, gone, htiming⟩ := Storage.exists_timing_of_checks hchecks
  have htotal : Check.totalBudget span checks = c.config.batteryBudget span :=
    standardChecks_totalBudget hchecks
  have hbattery : Takes (Check.runAll checks) (c.config.batteryBudget span) := by
    rw [← htotal]
    exact Check.runAll_takes fun check hcheck =>
      (standardChecks_lookUp hchecks check hcheck).takes hserver
  have hstorage := Storage.runStorage_takes htiming hserver
  have hrun : Takes (runSuite c) (c.config.batteryBudget span + c.config.storageBudget span) := by
    unfold runSuite
    simp only [hchecks]
    refine (Takes.note _).after fun _ => hbattery.bind fun reports => ?_
    refine hstorage.before fun stored => ?_
    cases stored with
    | error fault => exact Takes.pure _
    | ok stored => exact Takes.pure _
  refine ⟨checks, _, hchecks, htotal, (runSuite_filed hchecks s).value_eq, ?_, ?_⟩
  · exact hbattery (c.started s)
  · rw [Nat.add_assoc]
    exact hrun s

/-- The suite against a server that loses every request after a second. -/
def stalled : Context Bool :=
  { healthy with
    server := {
      answer := fun _ => do
        Run.move (fun w => { w with clock := w.clock.elapse (Duration.ofSecs 1).nanos })
          fun w => w.clock.le_elapse _
        return .error "connection reset" } }

/-- This run ends with a report, within two hours and a half. -/
theorem stalled_budget :
    stalled.config.validate = .ok () ∧
      stalled.server.AnswersWithin (Duration.ofSecs 1).nanos ∧
      (∃ report, (runSuite stalled).value healthyStart = .ok report) ∧
      ((runSuite stalled).final healthyStart).now ≤ (Duration.ofSecs 8464).nanos := by
  have hvalid : stalled.config.validate = .ok () := rfl
  have hserver : stalled.server.AnswersWithin (Duration.ofSecs 1).nanos :=
    fun _ _ => Nat.le_refl _
  obtain ⟨_, report, _, _, hreport, _, hnow⟩ := runSuite_budget hvalid hserver healthyStart
  refine ⟨hvalid, hserver, ⟨report, hreport⟩, Nat.le_trans hnow ?_⟩
  decide

end ClusterReady

import ClusterReady.Proofs.Ledger
import ClusterReady.Proofs.StableWindow

/-!
# An interruption is no timeout

A steady predicate tells of a cancellation in its pauses by a failure, which the loop around it
could take for one that the deadline has made final.  It does not, because it looks for the
cancellation first: an evaluation that was interrupted is the last one, and the wait ends as
cancelled, also when the deadline is past.
-/

namespace ClusterReady

variable {σ : Type}

/-- The predicate says that it was interrupted only in a run that is cancelled by then. -/
def Predicate.Truthful (p : Predicate σ) : Prop :=
  ∀ s : Session σ, (p.evaluation .run s).verdict = .error .interrupted →
    (p.evaluation .run s).after.cancelled = true

/-! ## Lookups -/

namespace Verdict

variable {α : Type} {judge : α → Verdict}

theorem of_not_interrupted
    (h : ∀ a, judge a ≠ .error .interrupted) (answer : Except ClientError α) :
    Verdict.of judge answer ≠ .error .interrupted := by
  cases answer with
  | ok a => exact h a
  | error e =>
      intro heq
      cases heq

theorem ofObject_not_interrupted
    {absent : Verdict} (habsent : absent ≠ .error .interrupted)
    (h : ∀ a, judge a ≠ .error .interrupted) (answer : Except ClientError α) :
    Verdict.ofObject absent judge answer ≠ .error .interrupted := by
  cases answer with
  | ok a => exact h a
  | error e =>
      by_cases hgone : e.isNotFound = true
      · rw [ofObject, if_pos hgone]
        exact habsent
      · rw [ofObject, if_neg hgone]
        intro heq
        cases heq

end Verdict

theorem Lookup.not_interrupted
    {server : Server σ} {p : Predicate σ} {read : Option Request} (h : Lookup server p read)
    (token : Token) (s : Session σ) : (p.check token).value s ≠ .error .interrupted := by
  cases h with
  | nodes selector expected =>
      simp only [nodesReady, Run.value_bind, Run.value_pure]
      refine Verdict.of_not_interrupted (fun l => ?_) _
      simp only [evaluateNodes]
      split <;> simp
  | workloads kind scope selector =>
      simp only [workloadsReady, Run.value_bind, Run.value_pure]
      refine Verdict.of_not_interrupted (fun l => ?_) _
      simp only [evaluateWorkloads]
      split <;> simp
  | pods scope selector =>
      simp only [podsRunning, Run.value_bind, Run.value_pure]
      refine Verdict.of_not_interrupted (fun l => ?_) _
      simp only [evaluatePods]
      split
      · simp
      · split <;> simp
  | condition target scope name type =>
      simp only [conditionStatus, Run.value_bind, Run.value_pure]
      refine Verdict.ofObject_not_interrupted (by simp) (fun o => ?_) _
      unfold evaluateCondition
      split
      · simp
      · split <;> simp
  | claim scope name =>
      simp only [claimBound, Run.value_bind, Run.value_pure]
      refine Verdict.ofObject_not_interrupted (by simp) (fun c => ?_) _
      unfold evaluateClaim
      split <;> simp
  | deletion c d metadata kind name =>
      simp only [resourceDeleted, Run.value_bind, Run.value_pure]
      exact Verdict.ofObject_not_interrupted (by simp) (fun o => by simp) _

theorem Lookup.truthful
    {server : Server σ} {p : Predicate σ} {read : Option Request} (h : Lookup server p read) :
    p.Truthful :=
  fun s hv => absurd hv (h.not_interrupted .run s)

/-! ## Streaks -/

theorem StreakRun.cancelled_of_interrupted
    {p : Predicate σ} {c : ConsistencyConfig} {left : Nat} {s t : Session σ}
    {calls : List (Evaluation σ)} {verdict : Verdict} (hp : p.Truthful)
    (h : StreakRun p c .run left s calls verdict t) (hverdict : verdict = .error .interrupted) :
    t.cancelled = true := by
  induction h with
  | none => cases hverdict
  | broken hv =>
      cases hverdict
      exact hp _ hv
  | complete _ => cases hverdict
  | interrupted _ _ _ hdoze => exact Clock.cancelled_doze_iff.mpr hdoze
  | next _ _ _ _ _ ih => exact ih hverdict

theorem Predicate.Truthful.consistently
    {p : Predicate σ} (hp : p.Truthful) (c : ConsistencyConfig) : (p.consistently c).Truthful :=
  fun s hv => (streak_run p c .run c.required s).cancelled_of_interrupted hp hv

theorem Predicate.Truthful.nested
    {p : Predicate σ} (hp : p.Truthful) (nesting : List ConsistencyConfig) :
    (nesting.foldl Predicate.consistently p).Truthful := by
  induction nesting generalizing p with
  | nil => exact hp
  | cons c rest ih => exact ih (hp.consistently c)

/-- A failure in a streak ends it, and is its verdict. -/
theorem StreakRun.error_of_mem
    {p : Predicate σ} {c : ConsistencyConfig} {token : Token} {left : Nat} {s t : Session σ}
    {calls : List (Evaluation σ)} {verdict : Verdict} {failure : CheckFailure}
    (h : StreakRun p c token left s calls verdict t) {e : Evaluation σ} (he : e ∈ calls)
    (hv : e.verdict = .error failure) :
    calls.getLast? = some e ∧ verdict = .error failure := by
  induction h with
  | none => cases he
  | broken hbroken =>
      rw [List.mem_singleton.mp he] at hv ⊢
      cases hbroken.symm.trans hv
      exact ⟨rfl, rfl⟩
  | complete hok =>
      rw [List.mem_singleton.mp he, hok] at hv
      cases hv
  | interrupted _ hok _ _ =>
      rw [List.mem_singleton.mp he, hok] at hv
      cases hv
  | next hleft hok _ _ hrest ih =>
      rcases List.mem_cons.mp he with rfl | he
      · rw [hok] at hv
        cases hv
      · obtain ⟨hlast, hverdict⟩ := ih he
        obtain ⟨rest, rfl⟩ := hrest.exists_cons hleft
        rw [List.getLast?_cons_cons]
        exact ⟨hlast, hverdict⟩

/-! ## Loops -/

/-- A wait with these evaluations ends with the first one that was interrupted, as cancelled and
never as timed out. -/
structure EndsInterrupted (describe : String) (calls : List (Evaluation σ)) (result : PollResult)
    (t : Session σ) : Prop where
  not_timedOut : ∀ shown n elapsed,
    result ≠ .error (.timedOut shown n elapsed .interrupted)
  cancelled : ∀ (k : Nat) (e : Evaluation σ), calls[k]? = some e →
    e.verdict = .error .interrupted →
    calls.length = k + 1 ∧
      result = .error (.cancelled describe (k + 1) (some .interrupted)) ∧ t.now = e.finish

/-- A poll of a truthful predicate ends when it is interrupted. -/
theorem pollUntil_endsInterrupted
    {p : Predicate σ} (hp : p.Truthful) (config : PollConfig) (s : Session σ) :
    EndsInterrupted p.describe (pollCalls p config s) ((pollUntil p config).value s)
      ((pollUntil p config).final s) := by
  have hrun := pollUntil_run p config s
  have hcancelled : ∀ e ∈ pollCalls p config s, e.verdict = .error .interrupted →
      e.after.cancelled = true := by
    intro e he hv
    have heq := (hrun.of_mem e he).1
    rw [heq] at hv ⊢
    exact hp e.before hv
  constructor
  · intro shown n elapsed htimeout
    cases hlast : (pollCalls p config s).getLast? with
    | none =>
        have hnone := hrun.eq_nil_iff.mp (List.getLast?_eq_none_iff.mp hlast)
        cases (hrun.of_nil hnone).1.symm.trans htimeout
    | some e =>
        obtain ⟨⟨hv, hfalse, -⟩, -⟩ := ((hrun.lastCall hlast).timedOut_iff _ _ _ _).mp htimeout
        rw [hcancelled e (List.mem_of_getLast? hlast) hv] at hfalse
        cases hfalse
  · intro k e he hv
    have htrue := hcancelled e (List.mem_of_getElem? he) hv
    obtain ⟨hk, -⟩ := List.getElem?_eq_some_iff.mp he
    have hlength : (pollCalls p config s).length = k + 1 := by
      by_contra hmore
      have hnext : k + 1 < (pollCalls p config s).length := by omega
      -- the loop goes on only in a run that is not cancelled
      have hfalse := (hrun.step_spec he (List.getElem?_eq_getElem hnext)).2.1
      rw [htrue] at hfalse
      cases hfalse
    have hlast : (pollCalls p config s).getLast? = some e := by
      rw [List.getLast?_eq_getElem?, hlength, Nat.add_sub_cancel, he]
    have hcall := hrun.lastCall hlast
    rw [Nat.zero_add, hlength] at hcall
    refine ⟨hlength, ?_, hcall.now_eq fun _ _ => Or.inl htrue⟩
    exact (hcall.cancelled_iff _ _ _).mpr ⟨⟨⟨_, hv, rfl⟩, Or.inl htrue⟩, rfl, rfl⟩

theorem tick_failed
    {p : Predicate σ} {c : ConsistencyConfig} {tick e : Evaluation σ} {failure : CheckFailure}
    (htick : tick = (p.consistently c).evaluation .run tick.before)
    (he : e ∈ tickCalls p c tick.before) (hv : e.verdict = .error failure) :
    (tickCalls p c tick.before).getLast? = some e ∧ tick.verdict = .error failure := by
  have hstreak := streak_run p c .run c.required tick.before
  obtain ⟨hlast, hverdict⟩ := hstreak.error_of_mem he hv
  refine ⟨hlast, ?_⟩
  rw [htick]
  exact hverdict

theorem pollUntilConsistent_interrupted
    {p : Predicate σ} (hp : p.Truthful) (c : ConsistencyConfig) (config : PollConfig)
    (s : Session σ) {e : Evaluation σ} (he : e ∈ steadyCalls p c config s)
    (hv : e.verdict = .error .interrupted) :
    (steadyCalls p c config s).getLast? = some e ∧
      (pollUntilConsistent p c config).value s = .error (.cancelled (p.consistently c).describe
        (pollCalls (p.consistently c) config s).length (some .interrupted)) := by
  obtain ⟨tick, htick, he⟩ := List.mem_flatMap.mp he
  have hrun := pollUntil_run (p.consistently c) config s
  obtain ⟨hlast, hinterrupted⟩ := tick_failed (hrun.of_mem tick htick).1 he hv
  obtain ⟨k, hk⟩ := List.mem_iff_getElem?.mp htick
  obtain ⟨hlength, hresult, -⟩ :=
    (pollUntil_endsInterrupted (hp.consistently c) config s).cancelled k tick hk hinterrupted
  have hend : (pollCalls (p.consistently c) config s).getLast? = some tick := by
    rw [List.getLast?_eq_getElem?, hlength, Nat.add_sub_cancel, hk]
  obtain ⟨earlier, hsplit⟩ := List.getLast?_eq_some_iff.mp hend
  constructor
  · rw [steadyCalls, hsplit, List.flatMap_append, List.flatMap_singleton, List.getLast?_append,
      hlast]
    rfl
  · rw [hlength]
    exact hresult

/-! ## Checks -/

namespace Check

theorem driven_truthful {c : Check σ} (hp : c.predicate.Truthful) : c.driven.Truthful := by
  unfold driven
  cases c.strategy with
  | poll config => exact hp
  | consistent steady config => exact hp.consistently steady

theorem exists_failed_attempt
    {c : Check σ} {s : Session σ} {e : Evaluation σ} {failure : CheckFailure}
    (he : e ∈ c.evaluations s) (hv : e.verdict = .error failure) :
    ∃ tick ∈ c.ticks s, tick.verdict = .error failure := by
  cases hstrategy : c.strategy with
  | poll config =>
      rw [evaluations_of_poll hstrategy] at he
      exact ⟨e, he, hv⟩
  | consistent steady config =>
      rw [evaluations_of_consistent hstrategy] at he
      obtain ⟨tick, htick, he⟩ := List.mem_flatMap.mp he
      exact ⟨tick, htick, (tick_failed (eq_tick_of_mem hstrategy htick) he hv).2⟩

/-- An attempt of a check that was interrupted is what the check reports, as a cancellation. -/
theorem run_interrupted
    {c : Check σ} (hp : c.predicate.Truthful) {s : Session σ} {e : Evaluation σ}
    (he : e ∈ c.ticks s) (hv : e.verdict = .error .interrupted) :
    c.run.value s = ⟨c.name, .cancelled (WaitError.cancelled c.driven.describe
      (c.ticks s).length (some .interrupted)).message⟩ := by
  cases hs : s.cancelled with
  | true =>
      rw [ticks, hs, if_pos rfl] at he
      cases he
  | false =>
      have hticks : c.ticks s = pollCalls c.driven c.timing (c.waiting s) := by
        rw [ticks, hs, if_neg Bool.false_ne_true]
      rw [hticks] at he ⊢
      obtain ⟨k, hk⟩ := List.mem_iff_getElem?.mp he
      obtain ⟨hlength, hresult, -⟩ :=
        (pollUntil_endsInterrupted (driven_truthful hp) c.timing (c.waiting s)).cancelled k e hk hv
      rw [(run_of_not_cancelled hs).1, wait_eq, hresult, hlength]
      rfl

end Check

/-- How the waits for a predicate treat an interruption of it: as a cancellation, whether it comes
in a tick or `within` one, and so it is `reported`. -/
structure HeedsInterruption (p : Predicate σ) : Prop where
  polled : ∀ (config : PollConfig) (s : Session σ),
    Writes (pollUntil p.recorded config) (pollUntil p config) (pollCalls p config s) s ∧
      EndsInterrupted p.describe (pollCalls p config s) ((pollUntil p config).value s)
        ((pollUntil p config).final s)
  steady : ∀ (c : ConsistencyConfig) (config : PollConfig) (s : Session σ),
    EndsInterrupted (p.consistently c).describe (pollCalls (p.consistently c) config s)
      ((pollUntilConsistent p c config).value s) ((pollUntilConsistent p c config).final s)
  within : ∀ (c : ConsistencyConfig) (config : PollConfig) (s : Session σ),
    Writes (pollUntilConsistent p.recorded c config) (pollUntilConsistent p c config)
        (steadyCalls p c config s) s ∧
      ∀ e ∈ steadyCalls p c config s, e.verdict = .error .interrupted →
        (steadyCalls p c config s).getLast? = some e ∧
          (pollUntilConsistent p c config).value s =
            .error (.cancelled (p.consistently c).describe
              (pollCalls (p.consistently c) config s).length (some .interrupted))
  reported : ∀ (check : Check σ), check.predicate = p → ∀ (s : Session σ) (e : Evaluation σ),
    e ∈ check.ticks s ∨ e ∈ check.evaluations s → e.verdict = .error .interrupted →
    check.run.value s = ⟨check.name, .cancelled (WaitError.cancelled check.driven.describe
      (check.ticks s).length (some .interrupted)).message⟩

/-- The predicates that look something up do not tell of an interruption that has not happened, nor
do steady predicates however deep they are nested; and an interruption of such a predicate is never
taken for a timeout. -/
theorem Predicate.interruption_heeded (σ : Type) :
    (∀ (server : Server σ) (p : Predicate σ) (read : Option Request),
      Lookup server p read → p.Truthful) ∧
    ∀ (p : Predicate σ), p.Truthful → ∀ nesting : List ConsistencyConfig,
      (nesting.foldl Predicate.consistently p).Truthful ∧
        HeedsInterruption (nesting.foldl Predicate.consistently p) := by
  refine ⟨fun server p read h => h.truthful, fun p hp nesting => ?_⟩
  have hnested := hp.nested nesting
  refine ⟨hnested, ?_, ?_, ?_, ?_⟩
  · intro config s
    exact ⟨pollUntil_recorded _ config s, pollUntil_endsInterrupted hnested config s⟩
  · intro c config s
    exact pollUntil_endsInterrupted (hnested.consistently c) config s
  · intro c config s
    refine ⟨pollUntilConsistent_recorded _ c config s, fun e he hv => ?_⟩
    exact pollUntilConsistent_interrupted hnested c config s he hv
  · rintro check hcheck s e he hv
    rw [← hcheck] at hnested
    rcases he with he | he
    · exact check.run_interrupted hnested he hv
    · obtain ⟨tick, htick, hfailed⟩ := Check.exists_failed_attempt he hv
      exact check.run_interrupted hnested htick hfailed

/-- Two successes, twenty seconds apart. -/
def patient : ConsistencyConfig := { twiceSteady with delay := .ofSecs 20 }

/-- The start of a run that is cancelled after fifteen seconds. -/
def brief : Session Bool := ⟨⟨{ cancelAt := some (Duration.ofSecs 15).nanos }, false⟩, {}⟩

/-- A check on the pods of a healthy cluster, whose pauses are longer than its timeout. -/
def slowCheck : Check Bool where
  name := "system-pods-running"
  predicate := podsRunning healthyServer "kube-system" ""
  strategy := .consistent patient tenSeconds

/-- The deadline of this check passes in a pause, and then the run is cancelled. -/
theorem slowCheck_interrupted :
    (slowCheck.ticks brief).map Evaluation.finish = [(Duration.ofSecs 15).nanos] ∧
      slowCheck.run.value brief = ⟨"system-pods-running",
        .cancelled (WaitError.cancelled slowCheck.driven.describe 1 (some .interrupted)).message⟩ := by
  obtain ⟨hlookups, hheeds⟩ := Predicate.interruption_heeded Bool
  have hcheck : HeedsInterruption slowCheck.predicate :=
    (hheeds slowCheck.predicate (hlookups _ _ _ (.pods _ _)) []).2
  have hticks : (slowCheck.ticks brief).map (fun e => (e.finish, e.verdict)) =
      [((Duration.ofSecs 15).nanos, .error .interrupted)] := by
    decide +kernel
  obtain ⟨e, he, htick⟩ := List.map_eq_singleton_iff.mp hticks
  obtain ⟨hfinish, hv⟩ := Prod.mk.inj htick
  have hmem : e ∈ slowCheck.ticks brief := by
    rw [he]
    exact List.mem_cons_self
  have hreport := hcheck.reported slowCheck rfl brief e (Or.inl hmem) hv
  rw [he] at hreport ⊢
  rw [List.map_singleton, hfinish]
  exact ⟨rfl, hreport⟩

end ClusterReady

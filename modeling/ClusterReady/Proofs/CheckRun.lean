import ClusterReady.Proofs.PollEnd
import ClusterReady.Suite.Check

/-!
# What a passed check has seen

A report says that a check has passed only when the predicate held in the last evaluation that the
check made.  A steady check has seen more: all the evaluations of one streak, one after the other,
and every one of them holds.
-/

namespace ClusterReady

variable {σ : Type}

theorem last_of_pollUntil_ok
    {p : Predicate σ} {config : PollConfig} {s : Session σ} {summary : PollSummary}
    (h : (pollUntil p config).value s = .ok summary) :
    ∃ e, (pollCalls p config s).getLast? = some e ∧ e.verdict = .ok () := by
  have hrun := pollUntil_run p config s
  cases hlast : (pollCalls p config s).getLast? with
  | none =>
      have hnil := hrun.eq_nil_iff.mp (List.getLast?_eq_none_iff.mp hlast)
      rw [(hrun.of_nil hnil).1] at h
      cases h
  | some e => exact ⟨e, rfl, (((hrun.lastCall hlast).ok_iff summary).mp h).1⟩

namespace Check

/-- The session in which a check that begins in `s` starts to wait. -/
def waiting (c : Check σ) (s : Session σ) : Session σ :=
  s.note (.checkStarted c.name c.predicate.describe)

/-- The evaluations of its predicate that a check makes which begins in `s`; those of a steady check
are the evaluations within its ticks. -/
def evaluations (c : Check σ) (s : Session σ) : List (Evaluation σ) :=
  if s.cancelled then []
  else match c.strategy with
    | .poll config => pollCalls c.predicate config (c.waiting s)
    | .consistent steady config =>
      (pollCalls (c.predicate.consistently steady) config (c.waiting s)).flatMap fun tick =>
        tickCalls c.predicate steady tick.before

/-- The check with its predicate recorded. -/
def recorded (c : Check σ) : Check (Diary σ) where
  name := c.name
  predicate := c.predicate.recorded
  strategy := c.strategy

theorem conclude_writes (name : String) (start : Nat) (result : PollResult) (s : Session σ) :
    Writes (conclude name start result) (conclude name start result) [] s := by
  cases result with
  | ok summary => exact (Writes.measure _ _).after (Writes.pure _ _)
  | error e =>
      refine (Writes.now _).after ?_
      cases hcancelled : e.isCancelled with
      | true =>
          simp only [if_true]
          exact (Writes.measure _ _).after ((Writes.note _ _).after (Writes.pure _ _))
      | false =>
          simp only [Bool.false_eq_true, if_false]
          exact (Writes.measure _ _).after ((Writes.note _ _).after (Writes.pure _ _))

/-- The evaluations that a check makes are those of `Check.evaluations`. -/
theorem run_recorded (c : Check σ) (s : Session σ) :
    Writes c.recorded.run c.run (c.evaluations s) s := by
  unfold run evaluations
  refine (Writes.cancelled _).after ?_
  rw [Step.value_cancelled, Step.final_cancelled]
  cases hs : s.cancelled with
  | true =>
      simp only [if_true]
      exact (Writes.measure _ _).after (Writes.pure _ _)
  | false =>
      simp only [Bool.false_eq_true, if_false]
      refine (Writes.note _ _).after ?_
      refine (Writes.now _).after ?_
      refine Writes.before ?_ (conclude_writes _ _ _ _)
      unfold wait recorded
      cases c.strategy with
      | poll config => exact pollUntil_recorded c.predicate config (c.waiting s)
      | consistent steady config =>
          exact pollUntilConsistent_recorded c.predicate steady config (c.waiting s)

/-- The evaluations of a tick that a steady check ends with: as many as it asks for, all of them
hold, and each follows the one before it after the pause. -/
structure SteadyTick (p : Predicate σ) (steady : ConsistencyConfig) (tick : Evaluation σ) :
    Prop where
  complete : (tickCalls p steady tick.before).length = steady.required
  all_hold : ∀ e ∈ tickCalls p steady tick.before, e.verdict = .ok ()
  chain : (tickCalls p steady tick.before).IsChain (Evaluation.Follows steady.delay.nanos)

/-- A check that begins in `s` has found its predicate to hold when it was over: in its last
evaluation, and a steady check in all those of its last tick. -/
structure Held (c : Check σ) (s : Session σ) : Prop where
  recorded : Writes c.recorded.run c.run (c.evaluations s) s
  last : ∃ e, (c.evaluations s).getLast? = some e ∧ e.verdict = .ok ()
  steady : ∀ steady config, c.strategy = .consistent steady config →
    ∃ tick earlier,
      (pollCalls (c.predicate.consistently steady) config (c.waiting s)).getLast? = some tick ∧
      c.evaluations s = earlier ++ tickCalls c.predicate steady tick.before ∧
      SteadyTick c.predicate steady tick

/-- A tick in which a steady predicate holds is a whole streak. -/
theorem steadyTick_of_ok
    {p : Predicate σ} {steady : ConsistencyConfig} {tick : Evaluation σ}
    (htick : tick = (p.consistently steady).evaluation .run tick.before)
    (hv : tick.verdict = .ok ()) : SteadyTick p steady tick := by
  have hstreak := streak_run p steady .run steady.required tick.before
  have hvalue : (streak p steady .run steady.required).value tick.before = .ok () := by
    rw [htick] at hv
    exact hv
  obtain ⟨hlength, hall⟩ := hstreak.of_ok hvalue
  exact ⟨hlength, hall, hstreak.isChain⟩

theorem SteadyTick.last
    {p : Predicate σ} {steady : ConsistencyConfig} {tick : Evaluation σ}
    (h : SteadyTick p steady tick) :
    ∃ e, (tickCalls p steady tick.before).getLast? = some e ∧ e.verdict = .ok () := by
  cases hlast : (tickCalls p steady tick.before).getLast? with
  | none =>
      have hnil := h.complete
      rw [List.getLast?_eq_none_iff.mp hlast] at hnil
      have hpos := steady.required_pos
      rw [← hnil] at hpos
      cases hpos
  | some e => exact ⟨e, rfl, h.all_hold e (List.mem_of_getLast? hlast)⟩

theorem held_of_wait
    {c : Check σ} {s : Session σ} {summary : PollSummary} (hs : s.cancelled = false)
    (h : c.wait.value (c.waiting s) = .ok summary) : c.Held s := by
  unfold wait at h
  cases hstrategy : c.strategy with
  | poll config =>
      simp only [hstrategy] at h
      obtain ⟨e, hlast, hv⟩ := last_of_pollUntil_ok h
      have heval : c.evaluations s = pollCalls c.predicate config (c.waiting s) := by
        simp only [evaluations, hs, Bool.false_eq_true, if_false, hstrategy]
      refine ⟨run_recorded c s, ⟨e, ?_, hv⟩, ?_⟩
      · rw [heval]
        exact hlast
      · intro steady config' hconsistent
        rw [hstrategy] at hconsistent
        cases hconsistent
  | consistent steady config =>
      simp only [hstrategy] at h
      obtain ⟨tick, hlast, hv⟩ := last_of_pollUntil_ok h
      have hrun := pollUntil_run (c.predicate.consistently steady) config (c.waiting s)
      have htick := steadyTick_of_ok (hrun.of_mem tick (List.mem_of_getLast? hlast)).1 hv
      obtain ⟨earlier, hsplit⟩ := List.getLast?_eq_some_iff.mp hlast
      have heval : c.evaluations s =
          (earlier.flatMap fun tick => tickCalls c.predicate steady tick.before) ++
            tickCalls c.predicate steady tick.before := by
        simp only [evaluations, hs, Bool.false_eq_true, if_false, hstrategy, hsplit,
          List.flatMap_append, List.flatMap_singleton]
      obtain ⟨e, hlaste, hve⟩ := htick.last
      refine ⟨run_recorded c s, ⟨e, ?_, hve⟩, ?_⟩
      · rw [heval, List.getLast?_append, hlaste]
        rfl
      · intro steady' config' hconsistent
        rw [hstrategy] at hconsistent
        cases hconsistent
        exact ⟨tick, _, hlast, heval, htick⟩

theorem exists_ok_of_conclude
    {name : String} {start : Nat} {result : PollResult} {s : Session σ}
    (h : ((conclude name start result).value s).outcome.isPassed = true) :
    ∃ summary, result = .ok summary := by
  cases result with
  | ok summary => exact ⟨summary, rfl⟩
  | error e =>
      simp only [conclude, Run.value_bind, Step.value_now, Step.final_now] at h
      cases hcancelled : e.isCancelled with
      | true =>
          simp only [hcancelled, if_true] at h
          cases h
      | false =>
          simp only [hcancelled, Bool.false_eq_true, if_false] at h
          cases h

/-- A check that is reported to have passed has held. -/
theorem held_of_passed
    {c : Check σ} {s : Session σ} (h : (c.run.value s).outcome.isPassed = true) : c.Held s := by
  unfold run at h
  rw [Run.value_bind, Step.value_cancelled, Step.final_cancelled] at h
  cases hs : s.cancelled with
  | true =>
      rw [hs] at h
      cases h
  | false =>
      rw [hs] at h
      obtain ⟨summary, hsummary⟩ := exists_ok_of_conclude h
      exact held_of_wait hs hsummary

/-- Of checks that run one after the other each has held where it began. -/
def AllHeld (checks : List (Check σ)) (s : Session σ) : Prop :=
  ∀ earlier c later, checks = earlier ++ c :: later →
    c.Held ((runAll earlier).final s)

theorem allHeld_nil (s : Session σ) : AllHeld [] s := by
  intro earlier c later h
  simp at h

theorem allHeld_cons
    {c : Check σ} {rest : List (Check σ)} {s : Session σ}
    (hc : c.Held s) (hrest : AllHeld rest (c.run.final s)) : AllHeld (c :: rest) s := by
  intro earlier d later h
  cases earlier with
  | nil =>
      rw [List.nil_append] at h
      cases h
      exact hc
  | cons first middle =>
      rw [List.cons_append] at h
      cases h
      exact hrest middle d later rfl

theorem allHeld_of_passed
    {checks : List (Check σ)} {s : Session σ}
    (h : ∀ r ∈ (runAll checks).value s, r.outcome.isPassed = true) : AllHeld checks s := by
  induction checks generalizing s with
  | nil => exact allHeld_nil s
  | cons c rest ih =>
      have hreports : (runAll (c :: rest)).value s =
          c.run.value s :: (runAll rest).value (c.run.final s) := rfl
      rw [hreports] at h
      obtain ⟨hc, hrest⟩ := List.forall_mem_cons.mp h
      exact allHeld_cons (held_of_passed hc) (ih hrest)

end Check

end ClusterReady

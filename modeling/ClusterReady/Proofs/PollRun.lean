import ClusterReady.Proofs.Clock
import ClusterReady.Wait.Poll
import Mathlib.Data.List.Chain

/-!
# Runs of the poll loop, pass by pass

`Tick.Pass` says everything that one pass of the loop can do, and `PollRun` what its passes do
together: the evaluations they make, the answer and the session they leave.  The loop itself is
such a run (`pollFrom_run`), so what is true of the loop is proved by cases on a pass and by
induction on a run, and the definitions of the loop are not opened again.
-/

namespace ClusterReady

variable {σ : Type}

/-- One evaluation of a predicate: the sessions in which it begins and ends, and its verdict. -/
structure Evaluation (σ : Type) where
  before : Session σ
  verdict : Verdict
  after : Session σ

namespace Evaluation

def start (e : Evaluation σ) : Nat := e.before.now

def finish (e : Evaluation σ) : Nat := e.after.now

end Evaluation

/-- The evaluation of a predicate that begins in a session. -/
def Predicate.evaluation (p : Predicate σ) (token : Token) (s : Session σ) : Evaluation σ where
  before := s
  verdict := (p.check token).value s
  after := (p.check token).final s

@[simp] theorem Predicate.evaluation_before
    (p : Predicate σ) (token : Token) (s : Session σ) :
    (p.evaluation token s).before = s := rfl

/-! ## One pass -/

namespace Tick

/-- The event that tells of the failure of an attempt. -/
def failureEvent (describe : String) (attempt : Nat) (elapsed : Duration)
    (failure : CheckFailure) : Event :=
  if attempt % warnEvery = 0 then .stillWaiting describe attempt elapsed failure
  else .conditionNotMet describe attempt failure

theorem final_report
    (describe : String) (start attempt : Nat) (failure : CheckFailure) (s : Session σ) :
    (report describe start attempt failure).final s =
      s.note (failureEvent describe attempt ⟨s.now - start⟩ failure) := by
  by_cases hwarn : attempt % warnEvery = 0
  · simp only [report, failureEvent, Run.final_bind, Step.value_now, Step.final_now, hwarn,
      if_true, Step.final_note]
  · simp only [report, failureEvent, Run.final_bind, Step.final_now, hwarn, if_false,
      Step.final_note]

/-- The session after an evaluation whose failure has been told. -/
def told (p : Predicate σ) (start attempts : Nat) (failure : CheckFailure) (s : Session σ) :
    Session σ :=
  (p.evaluation .run s).after.note
    (failureEvent p.describe (attempts + 1) ⟨(p.evaluation .run s).finish - start⟩ failure)

/-- What a pass can do that begins in `s`: how it ends and the session that it leaves.  It is
`unstarted` in a run that is cancelled; after a failure the run may be cancelled in the evaluation
or in the sleep, or the deadline has come. -/
inductive Pass (p : Predicate σ) (config : PollConfig) (start attempts : Nat)
    (last : Option CheckFailure) (s : Session σ) : Tick → Session σ → Prop where
  | unstarted (hs : s.cancelled = true) :
      Pass p config start attempts last s
        (.done (.error (.cancelled p.describe attempts last)))
        (s.note (.pollCancelled p.describe attempts))
  | met (hs : s.cancelled = false) (hv : (p.evaluation .run s).verdict = .ok ()) :
      Pass p config start attempts last s
        (.done (.ok ⟨attempts + 1, ⟨(p.evaluation .run s).finish - start⟩⟩))
        ((p.evaluation .run s).after.note
          (.conditionMet p.describe (attempts + 1) ⟨(p.evaluation .run s).finish - start⟩))
  | cancelledInCall (failure : CheckFailure) (hs : s.cancelled = false)
      (hv : (p.evaluation .run s).verdict = .error failure)
      (hc : (p.evaluation .run s).after.cancelled = true) :
      Pass p config start attempts last s
        (.done (.error (.cancelled p.describe (attempts + 1) (some failure))))
        ((told p start attempts failure s).note (.pollCancelled p.describe (attempts + 1)))
  | expired (failure : CheckFailure) (hs : s.cancelled = false)
      (hv : (p.evaluation .run s).verdict = .error failure)
      (hc : (p.evaluation .run s).after.cancelled = false)
      (hdue : start + config.timeout.nanos ≤ (p.evaluation .run s).finish) :
      Pass p config start attempts last s
        (.done (.error (.timedOut p.describe (attempts + 1)
          ⟨(p.evaluation .run s).finish - start⟩ failure)))
        ((told p start attempts failure s).note
          (.gaveUp p.describe (attempts + 1) ⟨(p.evaluation .run s).finish - start⟩ failure))
  | cancelledAsleep (failure : CheckFailure) (c : Nat) (hs : s.cancelled = false)
      (hv : (p.evaluation .run s).verdict = .error failure)
      (hdue : (p.evaluation .run s).finish < start + config.timeout.nanos)
      (hc : (p.evaluation .run s).after.world.clock.cancelAt = some c)
      (hlater : (p.evaluation .run s).finish < c)
      (hwake : c ≤ min (s.now + config.interval.nanos) (start + config.timeout.nanos)) :
      Pass p config start attempts last s
        (.done (.error (.cancelled p.describe (attempts + 1) (some failure))))
        (((told p start attempts failure s).withClock
          ((p.evaluation .run s).after.world.clock.sleep c)).note
            (.pollCancelled p.describe (attempts + 1)))
  | again (failure : CheckFailure) (hs : s.cancelled = false)
      (hv : (p.evaluation .run s).verdict = .error failure)
      (hdue : (p.evaluation .run s).finish < start + config.timeout.nanos)
      (hc : ∀ c, (p.evaluation .run s).after.world.clock.cancelAt = some c →
        max (p.evaluation .run s).finish
          (min (s.now + config.interval.nanos) (start + config.timeout.nanos)) < c) :
      Pass p config start attempts last s (.again failure)
        ((told p start attempts failure s).withClock
          ((p.evaluation .run s).after.world.clock.sleep
            (min (s.now + config.interval.nanos) (start + config.timeout.nanos))))

theorem afterFailure_pass
    {p : Predicate σ} {config : PollConfig} {start attempts : Nat}
    {last : Option CheckFailure} {s : Session σ} {failure : CheckFailure}
    (hs : s.cancelled = false) (hv : (p.evaluation .run s).verdict = .error failure) :
    let m := afterFailure p.describe config start s.now (attempts + 1) failure
    Pass p config start attempts last s (m.value (told p start attempts failure s))
      (m.final (told p start attempts failure s)) := by
  intro m
  have hm : m = afterFailure p.describe config start s.now (attempts + 1) failure := rfl
  unfold afterFailure at hm
  have hnow : (told p start attempts failure s).now = (p.evaluation .run s).finish := rfl
  have hcancelled : (told p start attempts failure s).cancelled =
      (p.evaluation .run s).after.cancelled := rfl
  have hclock : (told p start attempts failure s).world.clock =
      (p.evaluation .run s).after.world.clock := rfl
  cases hc : (p.evaluation .run s).after.cancelled with
  | true =>
      simp only [hm, Run.value_bind, Run.final_bind, Step.value_cancelled, Step.final_cancelled,
        hcancelled, hc, if_true]
      exact .cancelledInCall failure hs hv hc
  | false =>
      by_cases hdue : start + config.timeout.nanos ≤ (p.evaluation .run s).finish
      · simp only [hm, Run.value_bind, Run.final_bind, Step.value_cancelled,
          Step.final_cancelled, hcancelled, hc, Bool.false_eq_true, if_false, Step.value_now,
          Step.final_now, hnow, hdue, if_true]
        exact .expired failure hs hv hc hdue
      · simp only [hm, Run.value_bind, Run.final_bind, Step.value_cancelled,
          Step.final_cancelled, hcancelled, hc, Bool.false_eq_true, if_false, Step.value_now,
          Step.final_now, hnow, hdue, Step.value_doze, Step.final_doze, hclock]
        rcases Clock.doze_cases hc
            (min (s.now + config.interval.nanos) (start + config.timeout.nanos)) with
          ⟨c, hat, hlater, hwake, hdoze⟩ | ⟨hbefore, hdoze⟩
        · simp only [hdoze]
          exact .cancelledAsleep failure c hs hv (Nat.lt_of_not_le hdue) hat hlater hwake
        · simp only [hdoze]
          exact .again failure hs hv (Nat.lt_of_not_le hdue) hbefore

/-- A pass of the loop is one of the six. -/
theorem pass_spec
    (p : Predicate σ) (config : PollConfig) (start attempts : Nat)
    (last : Option CheckFailure) (s : Session σ) :
    Pass p config start attempts last s ((pass p config start attempts last).value s)
      ((pass p config start attempts last).final s) := by
  unfold pass
  cases hs : s.cancelled with
  | true =>
      simp only [Run.value_bind, Run.final_bind, Step.value_cancelled, Step.final_cancelled, hs,
        if_true]
      exact .unstarted hs
  | false =>
      simp only [Run.value_bind, Run.final_bind, Step.value_cancelled, Step.final_cancelled, hs,
        Bool.false_eq_true, if_false, Step.value_now, Step.final_now]
      cases hv : (p.check .run).value s with
      | ok _ => exact .met hs hv
      | error failure =>
          simp only [Run.value_bind, Run.final_bind, final_report]
          exact afterFailure_pass hs hv

/-- The evaluation of a pass that leads to another one has failed before the deadline, and the next
pass starts when an interval has passed or the deadline has come, or at once when that is past. -/
theorem Pass.again_spec
    {p : Predicate σ} {config : PollConfig} {start attempts : Nat}
    {last : Option CheckFailure} {s t : Session σ} {failure : CheckFailure}
    (h : Pass p config start attempts last s (.again failure) t) :
    s.cancelled = false ∧ (p.evaluation .run s).verdict = .error failure ∧
      (p.evaluation .run s).after.cancelled = false ∧
      (p.evaluation .run s).finish < start + config.timeout.nanos ∧
      t.cancelled = false ∧
      t.now = max (p.evaluation .run s).finish
        (min (s.now + config.interval.nanos) (start + config.timeout.nanos)) := by
  cases h with
  | again _ hs hv hdue hc =>
      have hsleep := Clock.sleep_not_cancelled hc
      have hafter := Clock.not_cancelled_of_le (Clock.le_sleep _ _) hsleep
      exact ⟨hs, hv, hafter, hdue, hsleep, rfl⟩

theorem Pass.of_cancelled
    {p : Predicate σ} {config : PollConfig} {start attempts : Nat}
    {last : Option CheckFailure} {s t : Session σ} {tick : Tick}
    (h : Pass p config start attempts last s tick t) (hs : s.cancelled = true) :
    tick = .done (.error (.cancelled p.describe attempts last)) ∧
      t = s.note (.pollCancelled p.describe attempts) := by
  cases h with
  | unstarted _ => exact ⟨rfl, rfl⟩
  | met hfalse _ => simp [hs] at hfalse
  | cancelledInCall _ hfalse _ _ => simp [hs] at hfalse
  | expired _ hfalse _ _ _ => simp [hs] at hfalse
  | cancelledAsleep _ _ hfalse _ _ _ _ _ => simp [hs] at hfalse
  | again _ hfalse _ _ _ => simp [hs] at hfalse

theorem after_le_told
    (p : Predicate σ) (start attempts : Nat) (failure : CheckFailure) (s : Session σ) :
    (p.evaluation .run s).after ≤ told p start attempts failure s :=
  Session.le_note _ _

theorem Pass.after_le
    {p : Predicate σ} {config : PollConfig} {start attempts : Nat}
    {last : Option CheckFailure} {s t : Session σ} {tick : Tick}
    (h : Pass p config start attempts last s tick t) (hs : s.cancelled = false) :
    (p.evaluation .run s).after ≤ t := by
  cases h with
  | unstarted htrue => simp [hs] at htrue
  | met _ _ => exact Session.le_note _ _
  | cancelledInCall failure _ _ _ =>
      exact Std.le_trans (after_le_told p start attempts failure s) (Session.le_note _ _)
  | expired failure _ _ _ _ =>
      exact Std.le_trans (after_le_told p start attempts failure s) (Session.le_note _ _)
  | cancelledAsleep failure c _ _ _ _ _ _ =>
      refine Std.le_trans (after_le_told p start attempts failure s) ?_
      exact Std.le_trans (Session.le_withClock (Clock.le_sleep _ _)) (Session.le_note _ _)
  | again failure _ _ _ _ =>
      exact Std.le_trans (after_le_told p start attempts failure s)
        (Session.le_withClock (Clock.le_sleep _ _))

theorem Pass.le
    {p : Predicate σ} {config : PollConfig} {start attempts : Nat}
    {last : Option CheckFailure} {s t : Session σ} {tick : Tick}
    (h : Pass p config start attempts last s tick t) : s ≤ t := by
  cases hs : s.cancelled with
  | false => exact Std.le_trans ((p.check .run).le_final s) (h.after_le hs)
  | true =>
      rw [(h.of_cancelled hs).2]
      exact Session.le_note _ _

end Tick

/-! ## A whole run -/

/-- The evaluations of a pass that begins in `s`: none in a run that is cancelled. -/
def passCalls (p : Predicate σ) (s : Session σ) : List (Evaluation σ) :=
  if s.cancelled then [] else [p.evaluation .run s]

theorem mem_passCalls {p : Predicate σ} {s : Session σ} {e : Evaluation σ} :
    e ∈ passCalls p s ↔ s.cancelled = false ∧ e = p.evaluation .run s := by
  cases hs : s.cancelled <;> simp [passCalls, hs]

/-- The evaluations of the passes of a loop from `s` on. -/
def pollCallsFrom (p : Predicate σ) (config : PollConfig) (start attempts : Nat)
    (last : Option CheckFailure) (s : Session σ) : List (Evaluation σ) :=
  passCalls p s ++
    match _hpass : (Tick.pass p config start attempts last).value s with
    | .done _ => []
    | .again failure =>
      pollCallsFrom p config start (attempts + 1) (some failure)
        ((Tick.pass p config start attempts last).final s)
termination_by start + config.timeout.nanos - s.now
decreasing_by
  have := Tick.again_later _hpass
  omega

/-- The evaluations that a poll of `p` makes from `s`, in their order. -/
def pollCalls (p : Predicate σ) (config : PollConfig) (s : Session σ) : List (Evaluation σ) :=
  pollCallsFrom p config s.now 0 none
    (s.note (.pollStarted p.describe config.timeout config.interval))

/-- Passes of the loop until it is over: after `attempts` evaluations, of which `last` was the most
recent failure, they make these evaluations, give this answer and leave this session. -/
inductive PollRun (p : Predicate σ) (config : PollConfig) (start : Nat) :
    Nat → Option CheckFailure → Session σ →
      List (Evaluation σ) → PollResult → Session σ → Prop where
  | stop {attempts : Nat} {last : Option CheckFailure} {s t : Session σ} {result : PollResult}
      (hpass : Tick.Pass p config start attempts last s (.done result) t) :
      PollRun p config start attempts last s (passCalls p s) result t
  | next {attempts : Nat} {last : Option CheckFailure} {s u t : Session σ}
      {failure : CheckFailure} {calls : List (Evaluation σ)} {result : PollResult}
      (hpass : Tick.Pass p config start attempts last s (.again failure) u)
      (hrest : PollRun p config start (attempts + 1) (some failure) u calls result t) :
      PollRun p config start attempts last s (p.evaluation .run s :: calls) result t

theorem pollFrom_eq
    (p : Predicate σ) (config : PollConfig) (start attempts : Nat)
    (last : Option CheckFailure) :
    pollFrom p config start attempts last =
      (Tick.pass p config start attempts last >>= fun
        | .done result => pure result
        | .again failure => pollFrom p config start (attempts + 1) (some failure) :
        Step σ PollResult) := by
  funext s
  apply Subtype.ext
  let step : Tick → Step σ PollResult := fun
    | .done result => pure result
    | .again failure => pollFrom p config start (attempts + 1) (some failure)
  have hbind : ∀ (tick : Tick) (t : Session σ) (hle : s ≤ t),
      Tick.pass p config start attempts last s = ⟨(tick, t), hle⟩ →
      ((Tick.pass p config start attempts last >>= step) s).val = (step tick t).val := by
    intro tick t hle hpass
    have hvalue : (Tick.pass p config start attempts last).value s = tick := by
      rw [Run.value, hpass]
    have hfinal : (Tick.pass p config start attempts last).final s = t := by
      rw [Run.final, hpass]
    rw [← hvalue, ← hfinal]
    rfl
  rw [pollFrom]
  split
  · rename_i result t hle hpass
    exact (hbind _ _ hle hpass).symm
  · rename_i failure t hle hpass
    exact (hbind _ _ hle hpass).symm

theorem pollCallsFrom_eq
    (p : Predicate σ) (config : PollConfig) (start attempts : Nat)
    (last : Option CheckFailure) (s : Session σ) :
    pollCallsFrom p config start attempts last s = passCalls p s ++
      match (Tick.pass p config start attempts last).value s with
      | .done _ => []
      | .again failure =>
        pollCallsFrom p config start (attempts + 1) (some failure)
          ((Tick.pass p config start attempts last).final s) := by
  rw [pollCallsFrom]
  cases (Tick.pass p config start attempts last).value s with
  | done result => rfl
  | again failure => rfl

/-- The loop makes the evaluations of its passes, one after the other. -/
theorem pollFrom_run
    (p : Predicate σ) (config : PollConfig) (start attempts : Nat)
    (last : Option CheckFailure) (s : Session σ) :
    PollRun p config start attempts last s
      (pollCallsFrom p config start attempts last s)
      (Run.value (pollFrom p config start attempts last) s)
      (Run.final (pollFrom p config start attempts last) s) := by
  induction attempts, last, s using pollCallsFrom.induct p config start with
  | case1 attempts last s ih =>
      have hpass := Tick.pass_spec p config start attempts last s
      rw [pollFrom_eq, pollCallsFrom_eq]
      simp only [Run.value_bind, Run.final_bind]
      cases hvalue : Run.value (Tick.pass p config start attempts last) s with
      | done result =>
          rw [hvalue] at hpass
          simp only [List.append_nil, Run.value_pure, Run.final_pure]
          exact .stop hpass
      | again failure =>
          have hrest := ih failure hvalue
          rw [hvalue] at hpass
          simp only [passCalls, hpass.again_spec.1, Bool.false_eq_true, if_false,
            List.singleton_append]
          exact .next hpass hrest

/-- The pass of the evaluation `e` leads to that of `d`. -/
def Evaluation.LeadsTo (p : Predicate σ) (config : PollConfig) (start : Nat)
    (e d : Evaluation σ) : Prop :=
  ∃ attempts last failure,
    Tick.Pass p config start attempts last e.before (.again failure) d.before

/-- A poll is a run of the loop that starts at once. -/
theorem pollUntil_run (p : Predicate σ) (config : PollConfig) (s : Session σ) :
    PollRun p config s.now 0 none
      (s.note (.pollStarted p.describe config.timeout config.interval))
      (pollCalls p config s) ((pollUntil p config).value s) ((pollUntil p config).final s) :=
  pollFrom_run p config s.now 0 none _

namespace PollRun

variable {p : Predicate σ} {config : PollConfig} {start attempts : Nat}
variable {last : Option CheckFailure} {s t : Session σ}
variable {calls : List (Evaluation σ)} {result : PollResult}

theorem of_mem (h : PollRun p config start attempts last s calls result t) :
    ∀ e ∈ calls, e = p.evaluation .run e.before ∧ e.before.cancelled = false := by
  induction h with
  | stop _ =>
      intro e he
      obtain ⟨hs, rfl⟩ := mem_passCalls.mp he
      exact ⟨rfl, hs⟩
  | next hpass _ ih =>
      intro e he
      rcases List.mem_cons.mp he with rfl | he
      · exact ⟨rfl, hpass.again_spec.1⟩
      · exact ih e he

theorem flatMap_evaluation (h : PollRun p config start attempts last s calls result t) :
    (calls.flatMap fun e => [p.evaluation .run e.before]) = calls := by
  have heach : ∀ e ∈ calls, [p.evaluation .run e.before] = [e] := by
    intro e he
    rw [← (h.of_mem e he).1]
  rw [List.flatMap_congr heach, List.flatMap_singleton']

theorem le (h : PollRun p config start attempts last s calls result t) : s ≤ t := by
  induction h with
  | stop hpass => exact hpass.le
  | next hpass _ ih => exact Std.le_trans hpass.le ih

theorem after_le (h : PollRun p config start attempts last s calls result t) :
    ∀ e ∈ calls, e.after ≤ t := by
  induction h with
  | stop hpass =>
      intro e he
      obtain ⟨hs, rfl⟩ := mem_passCalls.mp he
      exact hpass.after_le hs
  | next hpass hrest ih =>
      intro e he
      rcases List.mem_cons.mp he with rfl | he
      · exact Std.le_trans (hpass.after_le hpass.again_spec.1) hrest.le
      · exact ih e he

theorem before_of_head (h : PollRun p config start attempts last s calls result t)
    {e : Evaluation σ} (he : calls[0]? = some e) : e.before = s := by
  cases h with
  | stop hpass =>
      obtain ⟨-, rfl⟩ := mem_passCalls.mp (List.mem_of_getElem? he)
      rfl
  | next hpass _ =>
      simp only [List.getElem?_cons_zero, Option.some.injEq] at he
      rw [← he]
      rfl

theorem eq_nil_iff (h : PollRun p config start attempts last s calls result t) :
    calls = [] ↔ s.cancelled = true := by
  cases h with
  | stop hpass => cases hs : s.cancelled <;> simp [passCalls, hs]
  | next hpass _ => simp [hpass.again_spec.1]

theorem of_nil (h : PollRun p config start attempts last s calls result t)
    (hs : s.cancelled = true) :
    result = .error (.cancelled p.describe attempts last) ∧
      t = s.note (.pollCancelled p.describe attempts) := by
  cases h with
  | stop hpass =>
      obtain ⟨hresult, ht⟩ := hpass.of_cancelled hs
      cases hresult
      exact ⟨rfl, ht⟩
  | next hpass _ =>
      have hfalse := hpass.again_spec.1
      simp [hs] at hfalse

theorem exists_cons (h : PollRun p config start attempts last s calls result t)
    (hs : s.cancelled = false) :
    ∃ e rest, calls = e :: rest ∧ e.before = s := by
  cases hcalls : calls with
  | nil =>
      have hcancel := h.eq_nil_iff.mp hcalls
      rw [hs] at hcancel
      cases hcancel
  | cons e rest =>
      refine ⟨e, rest, rfl, h.before_of_head ?_⟩
      rw [hcalls]
      rfl

/-- From each evaluation but the last a pass leads to the next one. -/
theorem isChain (h : PollRun p config start attempts last s calls result t) :
    calls.IsChain (Evaluation.LeadsTo p config start) := by
  induction h with
  | @stop _ _ s _ _ _ =>
      cases hs : s.cancelled <;> simp [passCalls, hs]
  | next hpass hrest ih =>
      obtain ⟨e, rest, rfl, hbefore⟩ := hrest.exists_cons hpass.again_spec.2.2.2.2.1
      rw [← hbefore] at hpass
      exact List.isChain_cons_cons.mpr ⟨⟨_, _, _, hpass⟩, ih⟩

theorem leadsTo (h : PollRun p config start attempts last s calls result t)
    {k : Nat} {e d : Evaluation σ} (he : calls[k]? = some e) (hd : calls[k + 1]? = some d) :
    e.LeadsTo p config start d := by
  obtain ⟨hk, rfl⟩ := List.getElem?_eq_some_iff.mp he
  obtain ⟨hk', rfl⟩ := List.getElem?_eq_some_iff.mp hd
  exact h.isChain.getElem k hk'

/-- Of two evaluations that follow each other the first fails, before the deadline and before the
run is cancelled, and the second starts when the sleep after the first is over. -/
theorem step_spec (h : PollRun p config start attempts last s calls result t)
    {k : Nat} {e d : Evaluation σ} (he : calls[k]? = some e) (hd : calls[k + 1]? = some d) :
    (∃ failure, e.verdict = .error failure) ∧ e.after.cancelled = false ∧
      e.finish < start + config.timeout.nanos ∧
      d.start = max e.finish
        (min (e.start + config.interval.nanos) (start + config.timeout.nanos)) := by
  obtain ⟨done, before, failure, hpass⟩ := h.leadsTo he hd
  obtain ⟨-, hv, hc, hdue, -, hnow⟩ := hpass.again_spec
  have heq := (h.of_mem e (List.mem_of_getElem? he)).1
  rw [← heq] at hv hc hdue hnow
  exact ⟨⟨failure, hv⟩, hc, hdue, hnow⟩

/-- There is another evaluation before each one but the first, as `step_spec` tells. -/
theorem exists_previous (h : PollRun p config start attempts last s calls result t)
    {k : Nat} {d : Evaluation σ} (hd : calls[k + 1]? = some d) :
    ∃ e, calls[k]? = some e ∧ (∃ failure, e.verdict = .error failure) ∧
      e.after.cancelled = false ∧ e.finish < start + config.timeout.nanos ∧
      d.start = max e.finish
        (min (e.start + config.interval.nanos) (start + config.timeout.nanos)) := by
  obtain ⟨hlt, -⟩ := List.getElem?_eq_some_iff.mp hd
  have he := List.getElem?_eq_getElem (Nat.lt_of_succ_lt hlt)
  exact ⟨_, he, h.step_spec he hd⟩

theorem start_le_finish (h : PollRun p config start attempts last s calls result t) :
    ∀ e ∈ calls, e.start ≤ e.finish := by
  intro e he
  rw [(h.of_mem e he).1]
  exact Session.now_le ((p.check .run).le_final e.before)

theorem start_le_deadline (h : PollRun p config start attempts last s calls result t)
    (hs : s.now ≤ start + config.timeout.nanos) :
    ∀ e ∈ calls, e.start ≤ start + config.timeout.nanos := by
  intro e he
  obtain ⟨k, hk⟩ := List.mem_iff_getElem?.mp he
  cases k with
  | zero =>
      rw [Evaluation.start, h.before_of_head hk]
      exact hs
  | succ k =>
      obtain ⟨_, -, -, -, hdue, hstart⟩ := h.exists_previous hk
      omega

/-- All evaluations before the last one fail, before the run is cancelled. -/
theorem failed_before_last {earlier : List (Evaluation σ)} {e : Evaluation σ}
    (h : PollRun p config start attempts last s (earlier ++ [e]) result t) :
    ∀ d ∈ earlier, (∃ failure, d.verdict = .error failure) ∧ d.after.cancelled = false := by
  intro d hd
  obtain ⟨k, hk⟩ := List.mem_iff_getElem?.mp hd
  obtain ⟨hlt, -⟩ := List.getElem?_eq_some_iff.mp hk
  have hplace : (earlier ++ [e])[k]? = some d := by
    rw [List.getElem?_append_left hlt, hk]
  have hnext : k + 1 < (earlier ++ [e]).length := by
    rw [List.length_append, List.length_singleton]
    omega
  have hstep := h.step_spec hplace (List.getElem?_eq_getElem hnext)
  exact ⟨hstep.1, hstep.2.1⟩

/-- The pass of the last evaluation ends the run. -/
theorem lastPass (h : PollRun p config start attempts last s calls result t)
    {e : Evaluation σ} (he : calls.getLast? = some e) :
    ∃ done failure, done + 1 = attempts + calls.length ∧
      Tick.Pass p config start done failure e.before (.done result) t := by
  induction h with
  | @stop attempts last s _ _ hpass =>
      obtain ⟨hs, rfl⟩ := mem_passCalls.mp (List.mem_of_getLast? he)
      exact ⟨attempts, last, by simp [passCalls, hs], hpass⟩
  | next hpass hrest ih =>
      obtain ⟨d, rest, rfl, -⟩ := hrest.exists_cons hpass.again_spec.2.2.2.2.1
      rw [List.getLast?_cons_cons] at he
      obtain ⟨done, failure, hdone, hlast⟩ := ih he
      refine ⟨done, failure, ?_, hlast⟩
      simp only [List.length_cons] at hdone ⊢
      omega

end PollRun

end ClusterReady

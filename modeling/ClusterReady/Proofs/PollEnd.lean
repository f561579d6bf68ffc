import ClusterReady.Proofs.Diary

/-!
# How a poll ends

The answer of a poll is a function of the evaluations that it made: a success ends it whatever
else has happened meanwhile, a cancellation goes before the deadline, and the answer carries the
number of evaluations and the last failure.  No evaluation starts once the run is cancelled.  The
poll is over when its last evaluation is, or when the run is cancelled in the sleep after it.
-/

namespace ClusterReady

variable {σ : Type}

/-- What the last evaluation `e` of a poll decides.  The poll started at `began`, made `attempts`
evaluations, gave the answer `result` and left the session `t`; it is over when `e` is, unless the
run is cancelled in the sleep after it. -/
structure LastCall (describe : String) (config : PollConfig) (began attempts : Nat)
    (e : Evaluation σ) (result : PollResult) (t : Session σ) : Prop where
  ok_iff : ∀ summary, result = .ok summary ↔
    e.verdict = .ok () ∧ summary = ⟨attempts, ⟨e.finish - began⟩⟩
  timedOut_iff : ∀ shown n elapsed failure,
    result = .error (.timedOut shown n elapsed failure) ↔
      (e.verdict = .error failure ∧ e.after.cancelled = false ∧
        began + config.timeout.nanos ≤ e.finish) ∧
      shown = describe ∧ n = attempts ∧ elapsed = ⟨e.finish - began⟩
  cancelled_iff : ∀ shown n last,
    result = .error (.cancelled shown n last) ↔
      ((∃ failure, e.verdict = .error failure ∧ last = some failure) ∧
        (e.after.cancelled = true ∨ e.finish < began + config.timeout.nanos)) ∧
      shown = describe ∧ n = attempts
  now_eq : (∀ failure, e.verdict = .error failure →
      e.after.cancelled = true ∨ began + config.timeout.nanos ≤ e.finish) →
    t.now = e.finish
  asleep : ∀ failure, e.verdict = .error failure → e.after.cancelled = false →
    e.finish < began + config.timeout.nanos →
    ∃ c, t.world.clock.cancelAt = some c ∧ e.finish < c ∧
      c ≤ min (e.start + config.interval.nanos) (began + config.timeout.nanos) ∧ t.now = c

/-- The answer of a poll that is cancelled after a failure, in the evaluation or in the sleep after
it. -/
theorem LastCall.of_cancelled
    {describe : String} {config : PollConfig} {began attempts : Nat} {e : Evaluation σ}
    {t : Session σ} {failure : CheckFailure} (hv : e.verdict = .error failure)
    (hcause : e.after.cancelled = true ∨ e.finish < began + config.timeout.nanos)
    (hnow : (∀ f, e.verdict = .error f →
      e.after.cancelled = true ∨ began + config.timeout.nanos ≤ e.finish) → t.now = e.finish)
    (hasleep : ∀ f, e.verdict = .error f → e.after.cancelled = false →
      e.finish < began + config.timeout.nanos →
      ∃ c, t.world.clock.cancelAt = some c ∧ e.finish < c ∧
        c ≤ min (e.start + config.interval.nanos) (began + config.timeout.nanos) ∧ t.now = c) :
    LastCall describe config began attempts e
      (.error (.cancelled describe attempts (some failure))) t := by
  constructor
  · simp [hv]
  · intro shown n elapsed f
    constructor
    · intro htimeout
      cases htimeout
    · rintro ⟨⟨-, hfalse, hdue⟩, -⟩
      rcases hcause with htrue | hlt
      · simp [hfalse] at htrue
      · exact absurd hdue (Nat.not_le.mpr hlt)
  · intro shown n last
    constructor
    · intro hlast
      cases hlast
      exact ⟨⟨⟨failure, hv, rfl⟩, hcause⟩, rfl, rfl⟩
    · rintro ⟨⟨⟨f, hf, rfl⟩, -⟩, rfl, rfl⟩
      rw [hv] at hf
      cases hf
      rfl
  · exact hnow
  · exact hasleep

theorem LastCall.of_pass
    {p : Predicate σ} {config : PollConfig} {began done : Nat}
    {last : Option CheckFailure} {s t : Session σ} {result : PollResult}
    (h : Tick.Pass p config began done last s (.done result) t) (hs : s.cancelled = false) :
    LastCall p.describe config began (done + 1) (p.evaluation .run s) result t := by
  cases h with
  | unstarted htrue => simp [hs] at htrue
  | met _ hv =>
      constructor
      · intro summary
        constructor
        · intro hsummary
          cases hsummary
          exact ⟨hv, rfl⟩
        · rintro ⟨-, rfl⟩
          rfl
      · simp [hv]
      · simp [hv]
      · intro _
        rfl
      · simp [hv]
  | cancelledInCall failure _ hv hc =>
      refine of_cancelled hv (Or.inl hc) ?_ ?_
      · intro _
        rfl
      · intro _ _ hfalse
        simp [hc] at hfalse
  | expired failure _ hv hc hdue =>
      constructor
      · simp [hv]
      · intro shown n elapsed f
        constructor
        · intro hfailure
          cases hfailure
          exact ⟨⟨hv, hc, hdue⟩, rfl, rfl, rfl⟩
        · rintro ⟨⟨hf, -, -⟩, rfl, rfl, rfl⟩
          rw [hv] at hf
          cases hf
          rfl
      · simp [hc, Nat.not_lt.mpr hdue]
      · intro _
        rfl
      · intro f _ _ hlt
        omega
  | cancelledAsleep failure c _ hv hdue hat hlater hwake =>
      have hc : (p.evaluation .run s).after.cancelled = false :=
        Clock.not_cancelled_of_lt (Std.le_refl _) hat hlater
      refine of_cancelled hv (Or.inr hdue) ?_ ?_
      · intro hover
        rcases hover failure hv with htrue | hle
        · simp [hc] at htrue
        · exact absurd hle (Nat.not_le.mpr hdue)
      · intro _ _ _ _
        refine ⟨c, hat, hlater, hwake, ?_⟩
        exact Nat.max_eq_right (Nat.le_of_lt hlater)

/-- The last evaluation of a run of the loop decides what the run answers. -/
theorem PollRun.lastCall
    {p : Predicate σ} {config : PollConfig} {start attempts : Nat}
    {last : Option CheckFailure} {s t : Session σ} {calls : List (Evaluation σ)}
    {result : PollResult} (h : PollRun p config start attempts last s calls result t)
    {e : Evaluation σ} (he : calls.getLast? = some e) :
    LastCall p.describe config start (attempts + calls.length) e result t := by
  obtain ⟨done, failure, hdone, hpass⟩ := h.lastPass he
  obtain ⟨heq, hbegun⟩ := h.of_mem e (List.mem_of_getLast? he)
  have hcall := LastCall.of_pass hpass hbegun
  rw [← heq, hdone] at hcall
  exact hcall

theorem PollRun.answer
    {p : Predicate σ} {config : PollConfig} {start attempts : Nat}
    {last : Option CheckFailure} {s t : Session σ} {calls : List (Evaluation σ)}
    {result : PollResult} (h : PollRun p config start attempts last s calls result t) :
    (∃ summary, result = .ok summary) ∨
      (∃ shown n elapsed failure, result = .error (.timedOut shown n elapsed failure)) ∨
      ∃ shown n failure, result = .error (.cancelled shown n failure) ∧ t.cancelled = true := by
  induction h with
  | next _ _ ih => exact ih
  | stop hpass =>
      cases hpass with
      | unstarted hs => exact Or.inr (Or.inr ⟨_, _, _, rfl, hs⟩)
      | met _ _ => exact Or.inl ⟨_, rfl⟩
      | cancelledInCall failure _ _ hc => exact Or.inr (Or.inr ⟨_, _, _, rfl, hc⟩)
      | expired failure _ _ _ _ => exact Or.inr (Or.inl ⟨_, _, _, _, rfl⟩)
      | cancelledAsleep failure c _ _ _ hc hlater _ =>
          refine Or.inr (Or.inr ⟨_, _, _, rfl, ?_⟩)
          exact Clock.cancelled_iff.mpr ⟨c, hc, Nat.le_max_right _ _⟩

/-- The number of evaluations that the answer of a poll tells of. -/
def PollResult.attempts : PollResult → Nat
  | .ok summary => summary.attempts
  | .error e => e.attempts

theorem PollRun.attempts_eq
    {p : Predicate σ} {config : PollConfig} {start attempts : Nat}
    {last : Option CheckFailure} {s t : Session σ} {calls : List (Evaluation σ)}
    {result : PollResult} (h : PollRun p config start attempts last s calls result t) :
    result.attempts = attempts + calls.length := by
  induction h with
  | stop hpass =>
      cases hpass with
      | unstarted hs => simp [passCalls, hs, PollResult.attempts, WaitError.attempts]
      | met hs _ => simp [passCalls, hs, PollResult.attempts]
      | cancelledInCall _ hs _ _ =>
          simp [passCalls, hs, PollResult.attempts, WaitError.attempts]
      | expired _ hs _ _ _ => simp [passCalls, hs, PollResult.attempts, WaitError.attempts]
      | cancelledAsleep _ _ hs _ _ _ _ _ =>
          simp [passCalls, hs, PollResult.attempts, WaitError.attempts]
  | next _ _ ih =>
      rw [ih, List.length_cons]
      omega

/-- What is true of every poll of a predicate from the session `s`, by the evaluations `calls` that
it made, its answer and the session `t` that it leaves.  All evaluations but the last fail in time,
the last one decides, and none begins in a run that is cancelled. -/
structure PollTerminal (describe : String) (config : PollConfig) (s : Session σ)
    (calls : List (Evaluation σ)) (result : PollResult) (t : Session σ) : Prop where
  none_iff : calls = [] ↔ s.cancelled = true
  of_none : calls = [] →
    result = .error (.cancelled describe 0 none) ∧ t.now = s.now
  earlier : ∀ (k : Nat) (e : Evaluation σ), calls[k]? = some e → k + 1 < calls.length →
    (∃ failure, e.verdict = .error failure) ∧ e.after.cancelled = false ∧
      e.finish < s.now + config.timeout.nanos
  last : ∀ e, calls.getLast? = some e →
    LastCall describe config s.now calls.length e result t
  begun : ∀ e ∈ calls, e.before.cancelled = false ∧
    ∀ c, t.world.clock.cancelAt = some c → e.start ≤ c
  in_call : ∀ e ∈ calls, ∀ c, t.world.clock.cancelAt = some c → c < e.finish →
    calls.getLast? = some e ∧ t.now = e.finish
  in_sleep : ∀ e ∈ calls, (∃ failure, e.verdict = .error failure) →
    ∀ c, t.world.clock.cancelAt = some c → e.finish < c →
      c < min (e.start + config.interval.nanos) (s.now + config.timeout.nanos) →
      calls.getLast? = some e ∧ t.now = c

theorem getLast_or_next {α : Type} {l : List α} {k : Nat} {a : α} (ha : l[k]? = some a) :
    l.getLast? = some a ∨ ∃ b, l[k + 1]? = some b := by
  obtain ⟨hk, -⟩ := List.getElem?_eq_some_iff.mp ha
  by_cases hnext : k + 1 < l.length
  · exact Or.inr ⟨l[k + 1], List.getElem?_eq_getElem hnext⟩
  · have hlast : l.length - 1 = k := by omega
    rw [List.getLast?_eq_getElem?, hlast]
    exact Or.inl ha

/-- A poll makes these evaluations and ends as they say, whatever the predicate does and whenever
the run is cancelled. -/
theorem pollUntil_terminal (p : Predicate σ) (config : PollConfig) (s : Session σ) :
    Writes (pollUntil p.recorded config) (pollUntil p config) (pollCalls p config s) s ∧
      PollTerminal p.describe config s (pollCalls p config s)
        ((pollUntil p config).value s) ((pollUntil p config).final s) := by
  refine ⟨pollUntil_recorded p config s, ?_⟩
  have hrun := pollUntil_run p config s
  have hlast : ∀ e, (pollCalls p config s).getLast? = some e →
      LastCall p.describe config s.now (pollCalls p config s).length e
        ((pollUntil p config).value s) ((pollUntil p config).final s) := by
    intro e he
    have hcall := hrun.lastCall he
    rw [Nat.zero_add] at hcall
    exact hcall
  have hbegun : ∀ e ∈ pollCalls p config s, e.before.cancelled = false ∧
      ∀ c, ((pollUntil p config).final s).world.clock.cancelAt = some c → e.start ≤ c := by
    intro e he
    obtain ⟨heq, hfalse⟩ := hrun.of_mem e he
    refine ⟨hfalse, fun c hc => ?_⟩
    have hle : e.before ≤ (pollUntil p config).final s := by
      refine Std.le_trans ?_ (hrun.after_le e he)
      rw [heq]
      exact (p.check .run).le_final e.before
    exact Clock.now_le_cancelAt hle.1 hfalse hc
  constructor
  · exact hrun.eq_nil_iff
  · intro hnil
    obtain ⟨hresult, hfinal⟩ := hrun.of_nil (hrun.eq_nil_iff.mp hnil)
    rw [hfinal]
    exact ⟨hresult, rfl⟩
  · intro k e he hk
    have hstep := hrun.step_spec he (List.getElem?_eq_getElem hk)
    exact ⟨hstep.1, hstep.2.1, hstep.2.2.1⟩
  · exact hlast
  · exact hbegun
  · intro e he c hc hduring
    have htrue : e.after.cancelled = true :=
      Clock.cancelled_of_lt (hrun.after_le e he).1 hc hduring
    obtain ⟨k, hk⟩ := List.mem_iff_getElem?.mp he
    rcases getLast_or_next hk with hend | ⟨d, hd⟩
    · exact ⟨hend, (hlast e hend).now_eq fun _ _ => Or.inl htrue⟩
    · have hfalse := (hrun.step_spec hk hd).2.1
      rw [htrue] at hfalse
      cases hfalse
  · rintro e he ⟨failure, hv⟩ c hc hafter hwake
    obtain ⟨k, hk⟩ := List.mem_iff_getElem?.mp he
    rcases getLast_or_next hk with hend | ⟨d, hd⟩
    · have hfalse : e.after.cancelled = false :=
        Clock.not_cancelled_of_lt (hrun.after_le e he).1 hc hafter
      have hdue : e.finish < s.now + config.timeout.nanos := by omega
      obtain ⟨u, hu, -, -, hnow⟩ := (hlast e hend).asleep failure hv hfalse hdue
      rw [hc] at hu
      cases hu
      exact ⟨hend, hnow⟩
    · -- the next evaluation would start when the sleep is over, which is after the cancellation
      have hstart := (hrun.step_spec hk hd).2.2.2
      have hbefore := (hbegun d (List.mem_of_getElem? hd)).2 c hc
      omega

end ClusterReady

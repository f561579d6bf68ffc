import ClusterReady.Proofs.OwnEvents
import ClusterReady.Proofs.StreakCourse

/-!
# The log of a poll

A poll writes that it starts, then of each failed evaluation, in their order, and then of its
answer.  Nothing else is written by it, so its log and its answer tell the same story, however the
poll ends.
-/

namespace ClusterReady

variable {σ : Type}

/-- The value of a field of an event. -/
def Event.field? (event : Event) (name : String) : Option FieldValue := event.fields.lookup name

/-- The event tells of the failure of evaluation number `attempt`, and warns at every fifth. -/
structure Event.TellsFailure (attempt : Nat) (failure : CheckFailure) (event : Event) : Prop where
  attempt_eq : event.field? "attempt" = some (.number attempt)
  reason_eq : event.field? "reason" = some (.text failure.message)
  warning : 5 ∣ attempt → event.level = .warn ∧ event.message = "Still waiting for condition"
  detail : ¬5 ∣ attempt → event.level = .debug ∧ event.message = "Condition not met yet"
  state_eq : event.state? = none

/-- The event tells of the answer of a poll. -/
structure Event.TellsAnswer (result : PollResult) (event : Event) : Prop where
  succeeded : ∀ summary, result = .ok summary →
    event.state? = some .succeeded ∧
      event.field? "attempts" = some (.number summary.attempts) ∧
      event.field? "elapsed" = some (.text summary.elapsed.text)
  timedOut : ∀ shown attempts elapsed last,
    result = .error (.timedOut shown attempts elapsed last) →
    event.state? = some .timedOut ∧
      event.field? "attempts" = some (.number attempts) ∧
      event.field? "elapsed" = some (.text elapsed.text) ∧
      event.field? "reason" = some (.text last.message)
  cancelled : ∀ shown attempts last, result = .error (.cancelled shown attempts last) →
    event.state? = some .cancelled ∧
      event.field? "attempts" = some (.number attempts)
  terminal : ∃ state, event.state? = some state ∧ state.isTerminal = true

/-- What a poll that made these evaluations and gave this answer writes: the `opening`, then what is
`told` of the failures, one event of each and in their order, and the `closing`. -/
structure PollLog (calls : List (Evaluation σ)) (result : PollResult) (opening : Event)
    (told : List Event) (closing : Event) : Prop where
  started : opening.level = .debug ∧ opening.message = "Starting poll loop" ∧
    opening.state? = some .polling
  length_eq : told.length = calls.countP Evaluation.failed
  tells : ∀ (k : Nat) (event : Event), told[k]? = some event →
    ∃ e failure, (calls.filter Evaluation.failed)[k]? = some e ∧ e.verdict = .error failure ∧
      event.TellsFailure (k + 1) failure
  answered : closing.TellsAnswer result
  of_ok : ∀ summary, result = .ok summary → told.length + 1 = summary.attempts
  of_timedOut : ∀ shown attempts elapsed last,
    result = .error (.timedOut shown attempts elapsed last) → told.length = attempts
  of_cancelled : ∀ shown attempts last,
    result = .error (.cancelled shown attempts last) → told.length = attempts
  answers : (∃ summary, result = .ok summary) ∨
    (∃ shown attempts elapsed last, result = .error (.timedOut shown attempts elapsed last)) ∨
    ∃ shown attempts last, result = .error (.cancelled shown attempts last)

theorem Tick.tellsFailure (describe : String) (attempt : Nat) (elapsed : Duration)
    (failure : CheckFailure) :
    (failureEvent describe attempt elapsed failure).TellsFailure attempt failure := by
  unfold failureEvent
  by_cases hwarn : attempt % warnEvery = 0
  · have hfifth : 5 ∣ attempt := Nat.dvd_of_mod_eq_zero hwarn
    rw [if_pos hwarn]
    exact ⟨rfl, rfl, fun _ => ⟨rfl, rfl⟩, fun hnot => absurd hfifth hnot, rfl⟩
  · have hnot : ¬5 ∣ attempt := fun hfifth => hwarn (Nat.mod_eq_zero_of_dvd hfifth)
    rw [if_neg hwarn]
    exact ⟨rfl, rfl, fun hfifth => absurd hfifth hnot, fun _ => ⟨rfl, rfl⟩, rfl⟩

theorem PollResult.ToldBy.tellsAnswer {describe : String} {result : PollResult} {closing : Event}
    (h : result.ToldBy describe closing) : closing.TellsAnswer result := by
  cases h with
  | met attempts elapsed =>
      constructor
      · intro summary hsummary
        cases hsummary
        exact ⟨rfl, rfl, rfl⟩
      · simp
      · simp
      · exact ⟨_, rfl, rfl⟩
  | gaveUp attempts elapsed last =>
      constructor
      · simp
      · intro shown n duration failure hfailure
        cases hfailure
        exact ⟨rfl, rfl, rfl, rfl⟩
      · simp
      · exact ⟨_, rfl, rfl⟩
  | cancelled attempts last =>
      constructor
      · simp
      · simp
      · intro shown n failure hfailure
        cases hfailure
        exact ⟨rfl, rfl⟩
      · exact ⟨_, rfl, rfl⟩

/-! ## What is told of the failures -/

theorem loopEvents_congr {describe : String} {start done : Nat} {calls : List (Evaluation σ)}
    {within within' : Evaluation σ → List Event} (h : ∀ e ∈ calls, within e = within' e) :
    loopEvents describe start within done calls = loopEvents describe start within' done calls := by
  induction calls generalizing done with
  | nil => rfl
  | cons e rest ih =>
      obtain ⟨hfirst, hrest⟩ := List.forall_mem_cons.mp h
      rw [loopEvents, loopEvents, hfirst, ih hrest]

theorem length_loopEvents (describe : String) (start done : Nat) (calls : List (Evaluation σ)) :
    (loopEvents describe start (fun _ => []) done calls).length =
      calls.countP Evaluation.failed := by
  induction calls generalizing done with
  | nil => rfl
  | cons e rest ih =>
      rw [loopEvents, List.nil_append, List.length_append, ih]
      cases hv : e.verdict with
      | ok _ =>
          have hheld : ¬e.failed = true := by simp [Evaluation.not_failed_of_ok hv]
          rw [Evaluation.failureEvents_of_ok hv, List.countP_cons_of_neg hheld, List.length_nil,
            Nat.zero_add]
      | error failure =>
          rw [Evaluation.failureEvents_of_error hv,
            List.countP_cons_of_pos (Evaluation.failed_of_error hv), List.length_singleton,
            Nat.add_comm]

/-- The evaluation of a pass that ends the loop fails exactly when the loop does. -/
theorem Tick.Pass.failed_eq
    {p : Predicate σ} {config : PollConfig} {start attempts : Nat}
    {last : Option CheckFailure} {s t : Session σ} {result : PollResult}
    (h : Pass p config start attempts last s (.done result) t) (hs : s.cancelled = false) :
    (p.evaluation .run s).failed = !result.isOk := by
  cases h with
  | unstarted htrue => simp [hs] at htrue
  | met _ hv => exact Evaluation.not_failed_of_ok hv
  | cancelledInCall _ _ hv _ => exact Evaluation.failed_of_error hv
  | expired _ _ hv _ _ => exact Evaluation.failed_of_error hv
  | cancelledAsleep _ _ _ hv _ _ _ _ => exact Evaluation.failed_of_error hv

namespace PollRun

variable {p : Predicate σ} {config : PollConfig} {start attempts : Nat}
variable {last : Option CheckFailure} {s t : Session σ}
variable {calls : List (Evaluation σ)} {result : PollResult}

theorem countP_failed (h : PollRun p config start attempts last s calls result t) :
    calls.countP Evaluation.failed + (if result.isOk then 1 else 0) = calls.length := by
  induction h with
  | @stop _ _ s _ result hpass =>
      cases hs : s.cancelled with
      | true =>
          cases (hpass.of_cancelled hs).1
          rw [passCalls, if_pos hs]
          rfl
      | false =>
          rw [passCalls, hs, if_neg Bool.false_ne_true, List.countP_singleton,
            hpass.failed_eq hs]
          cases result.isOk <;> rfl
  | next hpass _ ih =>
      have hfailed := Evaluation.failed_of_error hpass.again_spec.2.1
      rw [List.countP_cons_of_pos hfailed, List.length_cons, ← ih]
      omega

/-- The events tell of the failed evaluations of a run in their order, and number them. -/
theorem tellsFailure (h : PollRun p config start attempts last s calls result t) {k : Nat}
    {event : Event}
    (hk : (loopEvents p.describe start (fun _ => []) attempts calls)[k]? = some event) :
    ∃ e failure, (calls.filter Evaluation.failed)[k]? = some e ∧ e.verdict = .error failure ∧
      event.TellsFailure (attempts + k + 1) failure := by
  -- only the last evaluation can hold, so the numbers of the failures are those of the evaluations
  induction h generalizing k with
  | @stop attempts _ s _ _ _ =>
      cases hs : s.cancelled with
      | true =>
          rw [passCalls, if_pos hs] at hk
          cases hk
      | false =>
          rw [passCalls, hs, if_neg Bool.false_ne_true] at hk ⊢
          rw [loopEvents, loopEvents, List.nil_append, List.append_nil] at hk
          cases hv : (p.evaluation .run s).verdict with
          | ok _ =>
              rw [Evaluation.failureEvents_of_ok hv] at hk
              cases hk
          | error failure =>
              rw [Evaluation.failureEvents_of_error hv] at hk
              obtain ⟨rfl, rfl⟩ := eq_of_getElem?_singleton hk
              rw [List.filter_cons_of_pos (Evaluation.failed_of_error hv)]
              exact ⟨_, failure, rfl, hv, Tick.tellsFailure _ _ _ _⟩
  | @next attempts _ s _ _ failure _ _ hpass _ ih =>
      have hv := hpass.again_spec.2.1
      rw [List.filter_cons_of_pos (Evaluation.failed_of_error hv)]
      rw [loopEvents, List.nil_append, Evaluation.failureEvents_of_error hv,
        List.singleton_append] at hk
      cases k with
      | zero =>
          cases hk
          exact ⟨_, failure, rfl, hv, Tick.tellsFailure _ _ _ _⟩
      | succ k =>
          obtain ⟨e, later, he, hve, htells⟩ := ih hk
          rw [Nat.add_right_comm attempts 1 k] at htells
          exact ⟨e, later, he, hve, htells⟩

end PollRun

/-! ## The poll -/

theorem Predicate.evaluation_through (p : Predicate σ) (s : Session σ) :
    Session.Through s [p.evaluation .run s] (p.evaluation .run s).after :=
  ⟨Std.le_refl _, (p.check .run).le_final s, Std.le_refl _⟩

/-- All that is written in an evaluation is written by its predicate. -/
theorem Predicate.ownEvents_evaluation (p : Predicate σ) (s : Session σ) :
    s.ownEvents [p.evaluation .run s] (p.evaluation .run s).after = [] := by
  rw [Session.ownEvents, Session.ownEvents, Predicate.evaluation_before, Session.logTo_self,
    Session.logTo_self]
  rfl

/-- What a poll writes itself tells, from its start to its answer, what it does: whatever its
predicate says and writes, and whenever the run is cancelled. -/
theorem pollUntil_log (p : Predicate σ) (config : PollConfig) (s : Session σ) :
    Writes (pollUntil p.recorded config) (pollUntil p config) (pollCalls p config s) s ∧
      s.Through (pollCalls p config s) ((pollUntil p config).final s) ∧
      ∃ opening told closing,
        s.ownEvents (pollCalls p config s) ((pollUntil p config).final s) =
          opening :: (told ++ [closing]) ∧
        PollLog (pollCalls p config s) ((pollUntil p config).value s) opening told closing := by
  have hrun := pollUntil_run p config s
  have hthrough := pollUntil_through p.evaluation_through config s
  obtain ⟨closing, htold, hown⟩ := pollUntil_ownEvents p.evaluation_through config s
  rw [hrun.flatMap_evaluation] at hthrough hown
  have hwithin : ∀ e ∈ pollCalls p config s,
      e.before.ownEvents [p.evaluation .run e.before] e.after = [] := by
    intro e he
    rw [(hrun.of_mem e he).1]
    exact p.ownEvents_evaluation e.before
  rw [loopEvents_congr hwithin] at hown
  refine ⟨pollUntil_recorded p config s, hthrough, _, _, closing, hown, ?_⟩
  have hcount := hrun.countP_failed
  have hattempts := hrun.attempts_eq
  rw [Nat.zero_add] at hattempts
  constructor
  · exact ⟨rfl, rfl, rfl⟩
  · exact length_loopEvents _ _ _ _
  · intro k event hk
    have htells := hrun.tellsFailure hk
    rw [Nat.zero_add] at htells
    exact htells
  · exact htold.tellsAnswer
  · intro summary hsummary
    rw [hsummary] at hcount hattempts
    rw [length_loopEvents]
    exact hcount.trans hattempts.symm
  · intro shown attempts elapsed failure hfailure
    rw [hfailure] at hcount hattempts
    rw [length_loopEvents]
    exact hcount.trans hattempts.symm
  · intro shown attempts failure hfailure
    rw [hfailure] at hcount hattempts
    rw [length_loopEvents]
    exact hcount.trans hattempts.symm
  · rcases hrun.answer with hok | htimeout | ⟨shown, n, failure, hresult, -⟩
    · exact Or.inl hok
    · exact Or.inr (Or.inl htimeout)
    · exact Or.inr (Or.inr ⟨shown, n, failure, hresult⟩)

end ClusterReady

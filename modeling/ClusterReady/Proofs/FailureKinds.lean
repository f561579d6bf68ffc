import ClusterReady.Proofs.Lockstep
import ClusterReady.Proofs.PollLog

/-!
# All failures are retried alike

A poll asks of an evaluation whether it holds and when it is over, and not why it has failed.  So
polls of two predicates that hold at the same times go the same way, whatever failures the
predicates give: a state that is not the expected one, a read that fails or an interruption.  The
failures are seen in the answers and in the log only.
-/

namespace ClusterReady

variable {σ τ : Type}

/-! ## Evaluations that agree -/

/-- The evaluations take as long, both hold or both fail, and they cancel the run at the same
instant, if they do. -/
structure Evaluation.Agrees (e : Evaluation σ) (d : Evaluation τ) : Prop where
  duration : e.duration = d.duration
  failed : e.failed = d.failed
  cancelAt : e.before.world.clock = d.before.world.clock →
    e.after.world.clock.cancelAt = d.after.world.clock.cancelAt

instance (e : Evaluation σ) (d : Evaluation τ) : Decidable (e.Agrees d) :=
  decidable_of_iff
    (e.duration = d.duration ∧ e.failed = d.failed ∧
      (e.before.world.clock = d.before.world.clock →
        e.after.world.clock.cancelAt = d.after.world.clock.cancelAt))
    ⟨fun ⟨hduration, hfailed, hcancel⟩ => ⟨hduration, hfailed, hcancel⟩,
      fun h => ⟨h.duration, h.failed, h.cancelAt⟩⟩

/-- The evaluations of two runs agree one by one, as far as both runs go. -/
def CallsAgree (calls : List (Evaluation σ)) (others : List (Evaluation τ)) : Prop :=
  ∀ pair ∈ calls.zip others, pair.1.Agrees pair.2

instance (calls : List (Evaluation σ)) (others : List (Evaluation τ)) :
    Decidable (CallsAgree calls others) :=
  inferInstanceAs (Decidable (∀ pair ∈ calls.zip others, pair.1.Agrees pair.2))

/-- The evaluations begin and end at the same instants, in runs that are cancelled at the same
instant as far as that is settled, and both hold or both fail. -/
structure Evaluation.Coincides (e : Evaluation σ) (d : Evaluation τ) : Prop where
  before : e.before.world.clock = d.before.world.clock
  failed : e.failed = d.failed
  after : e.after.world.clock = d.after.world.clock

/-- Nothing but the clock is the same. -/
def Session.SameClock (s : Session σ) (t : Session τ) : Prop := s.world.clock = t.world.clock

theorem Session.sameClock_bond : Session.Bond (SameClock : Session σ → Session τ → Prop) where
  clock hst := hst
  note hst _ _ := hst
  withClock _ _ := rfl

namespace Evaluation

variable {e : Evaluation σ} {d : Evaluation τ}

theorem matches_iff :
    Verdict.Matches (fun _ _ => True) e.verdict d.verdict ↔ e.failed = d.failed := by
  unfold failed
  generalize e.verdict = verdict
  generalize d.verdict = verdict'
  constructor
  · intro h
    cases h with
    | held => rfl
    | failed _ => rfl
  · intro h
    cases verdict with
    | ok _ =>
        cases verdict' with
        | ok _ => exact .held
        | error _ => exact absurd h Bool.false_ne_true
    | error _ =>
        cases verdict' with
        | ok _ => exact absurd h.symm Bool.false_ne_true
        | error _ => exact .failed trivial

theorem Coincides.paired (h : e.Coincides d) : e.Paired Session.SameClock (fun _ _ => True) d :=
  ⟨h.before, matches_iff.mpr h.failed, h.after⟩

/-- Evaluations of predicates that agree and begin at the same instant coincide. -/
theorem Agrees.coincides
    {p : Predicate σ} {q : Predicate τ} {token : Token} {s : Session σ} {t : Session τ}
    (h : (p.evaluation token s).Agrees (q.evaluation token t)) (hst : s.SameClock t) :
    (p.evaluation token s).Coincides (q.evaluation token t) := by
  have hnow : (p.evaluation token s).finish = (q.evaluation token t).finish := by
    rw [p.finish_evaluation, q.finish_evaluation, h.duration, Session.sameClock_bond.now_eq hst]
  have hcancel := h.cancelAt hst
  exact ⟨hst, h.failed, congrArg₂ Clock.mk hnow hcancel⟩

end Evaluation

theorem CallsAgree.inStep (token : Token) (p : Predicate σ) (q : Predicate τ) :
    InStep Session.SameClock CallsAgree Evaluation.Coincides token p q := by
  intro s t rest rest' hst h
  unfold CallsAgree at h
  rw [List.zip_cons_cons, List.forall_mem_cons] at h
  exact ⟨h.1.coincides hst, h.2⟩

/-! ## Events that differ in what is hidden -/

/-- The events have the same level, message and fields, but for the values of the `hidden` ones. -/
structure Event.SameBut (hidden : List String) (e d : Event) : Prop where
  level : e.level = d.level
  message : e.message = d.message
  fields : List.Forall₂ (fun x y => x.1 = y.1 ∧ (x.1 ∉ hidden → x.2 = y.2)) e.fields d.fields

section Events

variable {hidden : List String} {shown describe : String}
variable (hreason : "reason" ∈ hidden) (hname : "predicate" ∉ hidden → shown = describe)

include hname

theorem Event.pollStarted_sameBut (timeout interval : Duration) :
    (Event.pollStarted shown timeout interval).SameBut hidden
      (.pollStarted describe timeout interval) := by
  refine ⟨rfl, rfl, ?_⟩
  simpa [fields, details, state?] using hname

theorem streakEvents_sameBut {calls : List (Evaluation σ)} {others : List (Evaluation τ)}
    (h : List.Forall₂ Evaluation.Coincides calls others) (required left : Nat) :
    List.Forall₂ (Event.SameBut hidden) (streakEvents shown required left calls)
      (streakEvents describe required left others) := by
  induction h generalizing left with
  | nil => exact .nil
  | @cons e d _ _ hfirst _ ih =>
      refine List.rel_append ?_ (ih (left - 1))
      have hverdict := hfirst.paired.verdict
      generalize e.verdict = verdict at hverdict
      generalize d.verdict = verdict' at hverdict
      cases hverdict with
      | failed _ => exact .nil
      | held =>
          refine .cons ⟨rfl, rfl, ?_⟩ .nil
          simpa [Event.fields, Event.details, Event.state?] using hname

include hreason

theorem Tick.failureEvent_sameBut (attempt : Nat) (elapsed : Duration)
    (failure failure' : CheckFailure) :
    (failureEvent shown attempt elapsed failure).SameBut hidden
      (failureEvent describe attempt elapsed failure') := by
  unfold failureEvent
  by_cases hwarn : attempt % warnEvery = 0
  · rw [if_pos hwarn, if_pos hwarn]
    refine ⟨rfl, rfl, ?_⟩
    simpa [Event.fields, Event.details, Event.state?, hreason] using hname
  · rw [if_neg hwarn, if_neg hwarn]
    refine ⟨rfl, rfl, ?_⟩
    simpa [Event.fields, Event.details, Event.state?, hreason] using hname

/-- What two loops write of evaluations that coincide, when what is written within them differs in
what is hidden only. -/
theorem loopEvents_sameBut {calls : List (Evaluation σ)} {others : List (Evaluation τ)}
    {within : Evaluation σ → List Event} {within' : Evaluation τ → List Event}
    (h : List.Forall₂ (fun e d => e.Coincides d ∧
      List.Forall₂ (Event.SameBut hidden) (within e) (within' d)) calls others)
    (start done : Nat) :
    List.Forall₂ (Event.SameBut hidden) (loopEvents shown start within done calls)
      (loopEvents describe start within' done others) := by
  induction h generalizing done with
  | nil => exact .nil
  | @cons e d _ _ hfirst _ ih =>
      obtain ⟨hcoincide, hwithin⟩ := hfirst
      refine List.rel_append (List.rel_append hwithin ?_) (ih (done + 1))
      have hfinish : e.finish = d.finish := congrArg Clock.now hcoincide.after
      have hverdict := hcoincide.paired.verdict
      unfold Evaluation.failureEvents
      rw [hfinish]
      generalize e.verdict = verdict at hverdict
      generalize d.verdict = verdict' at hverdict
      cases hverdict with
      | held => exact .nil
      | failed _ => exact .cons (Tick.failureEvent_sameBut hreason hname _ _ _ _) .nil

theorem PollResult.Matches.sameBut
    {F : CheckFailure → CheckFailure → Prop} {result result' : PollResult}
    {closing closing' : Event} (h : result.Matches F shown describe result')
    (htold : result.ToldBy shown closing) (htold' : result'.ToldBy describe closing') :
    closing.SameBut hidden closing' := by
  cases h with
  | met _ =>
      cases htold
      cases htold'
      refine ⟨rfl, rfl, ?_⟩
      simpa [Event.fields, Event.details, Event.state?] using hname
  | timedOut _ _ _ =>
      cases htold
      cases htold'
      refine ⟨rfl, rfl, ?_⟩
      simpa [Event.fields, Event.details, Event.state?, hreason] using hname
  | cancelled _ _ =>
      cases htold
      cases htold'
      refine ⟨rfl, rfl, ?_⟩
      simpa [Event.fields, Event.details, Event.state?] using hname

end Events

/-! ## Polls that go the same way -/

/-- The runs `m` and `n` of polls of `p` and of `q`, which call themselves `shown` and `describe`,
go the same way when they make the evaluations `calls` and `others`.  Both end at the same instant
with the same answer but for the failure in it, and write the same events but for the reasons and
the names of the predicates. -/
structure Lockstep (p : Predicate σ) (q : Predicate τ) (shown describe : String)
    (m : Step σ PollResult) (n : Step τ PollResult) (calls : List (Evaluation σ))
    (others : List (Evaluation τ)) (s : Session σ) (t : Session τ) : Prop where
  coincide : List.Forall₂ Evaluation.Coincides calls others
  result : (m.value s).Matches (fun _ _ => True) shown describe (n.value t)
  finish : (m.final s).world.clock = (n.final t).world.clock
  through : s.Through calls (m.final s) ∧ t.Through others (n.final t)
  log : List.Forall₂ (Event.SameBut ["predicate", "reason"]) (s.ownEvents calls (m.final s))
    (t.ownEvents others (n.final t))
  log_of_describe : p.describe = q.describe →
    List.Forall₂ (Event.SameBut ["reason"]) (s.ownEvents calls (m.final s))
      (t.ownEvents others (n.final t))

/-- The evaluations of two predicates coincide, and so do the evaluations that they consist of. -/
structure TicksCoincide (p : Predicate σ) (q : Predicate τ)
    (inner : Session σ → List (Evaluation σ)) (inner' : Session τ → List (Evaluation τ))
    (e : Evaluation σ) (d : Evaluation τ) : Prop where
  eq_evaluation : e = p.evaluation .run e.before
  eq_evaluation' : d = q.evaluation .run d.before
  tick : e.Coincides d
  inner : List.Forall₂ Evaluation.Coincides (inner e.before) (inner' d.before)

section Polls

variable {p : Predicate σ} {q : Predicate τ} {inner : Session σ → List (Evaluation σ)}
variable {inner' : Session τ → List (Evaluation τ)}

theorem TicksCoincide.flatMap {ticks : List (Evaluation σ)} {others : List (Evaluation τ)}
    (h : List.Forall₂ (TicksCoincide p q inner inner') ticks others) :
    List.Forall₂ Evaluation.Coincides (ticks.flatMap fun e => inner e.before)
      (others.flatMap fun d => inner' d.before) := by
  induction h with
  | nil => exact .nil
  | cons hfirst _ ih => exact List.rel_append hfirst.inner ih

variable (hinner : ∀ s, Session.Through s (inner s) (p.evaluation .run s).after)
variable (hinner' : ∀ t, Session.Through t (inner' t) (q.evaluation .run t).after)

include hinner hinner'

theorem pollUntil_sameBut
    {hidden : List String} (hreason : "reason" ∈ hidden)
    (hname : "predicate" ∉ hidden → p.describe = q.describe)
    (hwithin : ∀ s t, List.Forall₂ Evaluation.Coincides (inner s) (inner' t) →
      List.Forall₂ (Event.SameBut hidden) (s.ownEvents (inner s) (p.evaluation .run s).after)
        (t.ownEvents (inner' t) (q.evaluation .run t).after))
    {config : PollConfig} {s : Session σ} {t : Session τ} (hst : s.SameClock t)
    (hticks : List.Forall₂ (TicksCoincide p q inner inner') (pollCalls p config s)
      (pollCalls q config t))
    {F : CheckFailure → CheckFailure → Prop}
    (hresult : ((pollUntil p config).value s).Matches F p.describe q.describe
      ((pollUntil q config).value t)) :
    List.Forall₂ (Event.SameBut hidden)
      (s.ownEvents ((pollCalls p config s).flatMap fun e => inner e.before)
        ((pollUntil p config).final s))
      (t.ownEvents ((pollCalls q config t).flatMap fun d => inner' d.before)
        ((pollUntil q config).final t)) := by
  obtain ⟨closing, htold, hown⟩ := pollUntil_ownEvents hinner config s
  obtain ⟨closing', htold', hown'⟩ := pollUntil_ownEvents hinner' config t
  rw [hown, hown', Session.sameClock_bond.now_eq hst]
  refine .cons (Event.pollStarted_sameBut hname _ _) (List.rel_append ?_ (.cons ?_ .nil))
  · refine loopEvents_sameBut hreason hname (hticks.imp ?_) _ _
    intro e d htick
    refine ⟨htick.tick, ?_⟩
    have hevents := hwithin e.before d.before htick.inner
    rw [← htick.eq_evaluation, ← htick.eq_evaluation'] at hevents
    exact hevents
  · exact hresult.sameBut hreason hname htold htold'

/-- Polls go the same way when the evaluations that theirs consist of agree, and theirs coincide
when these do; `first` and `second` are what is polled for in the end. -/
theorem lockstep_of_step
    {first : Predicate σ} {second : Predicate τ}
    (hdescribe : first.describe = second.describe → p.describe = q.describe)
    (hwithin : ∀ hidden, ("predicate" ∉ hidden → first.describe = second.describe) →
      ∀ s t, List.Forall₂ Evaluation.Coincides (inner s) (inner' t) →
      List.Forall₂ (Event.SameBut hidden) (s.ownEvents (inner s) (p.evaluation .run s).after)
        (t.ownEvents (inner' t) (q.evaluation .run t).after))
    (hstep : ∀ s t more more', s.SameClock t →
      CallsAgree (inner s ++ more) (inner' t ++ more') →
      (p.evaluation .run s).Coincides (q.evaluation .run t) ∧
        List.Forall₂ Evaluation.Coincides (inner s) (inner' t) ∧ CallsAgree more more')
    (config : PollConfig) {s : Session σ} {t : Session τ} (hst : s.SameClock t)
    (hagree : CallsAgree ((pollCalls p config s).flatMap fun e => inner e.before)
      ((pollCalls q config t).flatMap fun d => inner' d.before)) :
    Lockstep first second p.describe q.describe (pollUntil p config) (pollUntil q config)
      ((pollCalls p config s).flatMap fun e => inner e.before)
      ((pollCalls q config t).flatMap fun d => inner' d.before) s t := by
  -- what is known of the evaluations to come is that the parts of all of them agree
  let known : List (Evaluation σ) → List (Evaluation τ) → Prop := fun ticks others =>
    CallsAgree (ticks.flatMap fun e => inner e.before) (others.flatMap fun d => inner' d.before)
  have hinStep : InStep Session.SameClock known (TicksCoincide p q inner inner') .run p q := by
    intro s t rest rest' hst hknown
    obtain ⟨htick, hparts, hrest⟩ := hstep s t _ _ hst hknown
    exact ⟨⟨rfl, rfl, htick, hparts⟩, hrest⟩
  have hpaired : ∀ e d, TicksCoincide p q inner inner' e d →
      e.Paired Session.SameClock (fun _ _ => True) d :=
    fun _ _ hticks => hticks.tick.paired
  obtain ⟨⟨hresult, hfinish⟩, hticks⟩ :=
    pollUntil_meets Session.sameClock_bond hpaired hinStep config hst hagree
  have hthrough := pollUntil_through hinner config s
  have hthrough' := pollUntil_through hinner' config t
  constructor
  · exact TicksCoincide.flatMap hticks
  · exact hresult
  · exact hfinish
  · exact ⟨hthrough, hthrough'⟩
  · exact pollUntil_sameBut hinner hinner' (by simp) (by simp) (hwithin _ (by simp)) hst hticks
      hresult
  · intro hsame
    exact pollUntil_sameBut hinner hinner' (by simp) (fun _ => hdescribe hsame)
      (hwithin _ fun _ => hsame) hst hticks hresult

end Polls

theorem tickCalls_coincide
    (p : Predicate σ) (q : Predicate τ) (c : ConsistencyConfig) (s : Session σ) (t : Session τ)
    (more : List (Evaluation σ)) (more' : List (Evaluation τ)) (hst : s.SameClock t)
    (hagree : CallsAgree (tickCalls p c s ++ more) (tickCalls q c t ++ more')) :
    ((p.consistently c).evaluation .run s).Coincides ((q.consistently c).evaluation .run t) ∧
      List.Forall₂ Evaluation.Coincides (tickCalls p c s) (tickCalls q c t) ∧
      CallsAgree more more' := by
  obtain ⟨⟨hverdict, hfinal⟩, hcalls, hmore⟩ :=
    streak_meets Session.sameClock_bond (fun _ _ h => h.paired) trivial (CallsAgree.inStep .run p q)
      c.required hst hagree
  exact ⟨⟨hst, Evaluation.matches_iff.mp hverdict, hfinal⟩, hcalls, hmore⟩

theorem tickEvents_sameBut
    {hidden : List String} {p : Predicate σ} {q : Predicate τ}
    (hname : "predicate" ∉ hidden → p.describe = q.describe) (c : ConsistencyConfig)
    (s : Session σ) (t : Session τ)
    (h : List.Forall₂ Evaluation.Coincides (tickCalls p c s) (tickCalls q c t)) :
    List.Forall₂ (Event.SameBut hidden)
      (s.ownEvents (tickCalls p c s) ((p.consistently c).evaluation .run s).after)
      (t.ownEvents (tickCalls q c t) ((q.consistently c).evaluation .run t).after) := by
  have hown := (streak_run p c .run c.required s).ownEvents_eq
  have hown' := (streak_run q c .run c.required t).ownEvents_eq
  change List.Forall₂ _ (s.ownEvents _ ((streak p c .run c.required).final s))
    (t.ownEvents _ ((streak q c .run c.required).final t))
  rw [tickCalls, tickCalls, hown, hown']
  exact streakEvents_sameBut hname h c.required c.required

/-- All failures are retried alike: when the evaluations of two predicates take as long, hold at the
same times and cancel the run at the same instants, polls of the two for one success, or for several
in a row, go the same way, whatever the failures are. -/
theorem pollUntil_lockstep
    (p : Predicate σ) (q : Predicate τ) (config : PollConfig) (s : Session σ) (t : Session τ)
    (hclock : s.world.clock = t.world.clock) :
    (Writes (pollUntil p.recorded config) (pollUntil p config) (pollCalls p config s) s ∧
      Writes (pollUntil q.recorded config) (pollUntil q config) (pollCalls q config t) t ∧
      (CallsAgree (pollCalls p config s) (pollCalls q config t) →
        Lockstep p q p.describe q.describe (pollUntil p config) (pollUntil q config)
          (pollCalls p config s) (pollCalls q config t) s t)) ∧
    ∀ c : ConsistencyConfig,
      Writes (pollUntilConsistent p.recorded c config) (pollUntilConsistent p c config)
          (steadyCalls p c config s) s ∧
        Writes (pollUntilConsistent q.recorded c config) (pollUntilConsistent q c config)
          (steadyCalls q c config t) t ∧
        (CallsAgree (steadyCalls p c config s) (steadyCalls q c config t) →
          Lockstep p q (p.consistently c).describe (q.consistently c).describe
            (pollUntilConsistent p c config) (pollUntilConsistent q c config)
            (steadyCalls p c config s) (steadyCalls q c config t) s t) := by
  constructor
  · refine ⟨pollUntil_recorded p config s, pollUntil_recorded q config t, fun hagree => ?_⟩
    rw [← (pollUntil_run p config s).flatMap_evaluation,
      ← (pollUntil_run q config t).flatMap_evaluation] at hagree ⊢
    refine lockstep_of_step p.evaluation_through q.evaluation_through id ?_ ?_ config hclock hagree
    · intro hidden _ s t _
      rw [p.ownEvents_evaluation, q.ownEvents_evaluation]
      exact .nil
    · intro s t more more' hst hcalls
      obtain ⟨hfirst, hmore⟩ := CallsAgree.inStep .run p q s t more more' hst hcalls
      exact ⟨hfirst, .cons hfirst .nil, hmore⟩
  · intro c
    refine ⟨pollUntilConsistent_recorded p c config s, pollUntilConsistent_recorded q c config t,
      fun hagree => ?_⟩
    have hthrough := fun s => (streak_run p c .run c.required s).through
    have hthrough' := fun t => (streak_run q c .run c.required t).through
    refine lockstep_of_step hthrough hthrough' ?_ ?_ (tickCalls_coincide p q c) config hclock hagree
    · intro hsame
      rw [Predicate.consistently, Predicate.consistently, hsame]
    · intro hidden hname
      exact tickEvents_sameBut hname c

/-- A predicate that fails for a second, holds once, and then fails for good. -/
def wavering (first later : CheckFailure) : Predicate Scene :=
  .scripted "wavering" 0
    [⟨1000000000, false, .error first⟩, ⟨500000000, false, .ok ()⟩, ⟨0, false, .error later⟩]

/-- It fails because of the state first, and then because of a read. -/
def waveringState : Predicate Scene := wavering (.unsatisfied "down") (.read "connection refused")

/-- It fails because of a read first, and is then interrupted. -/
def waveringRead : Predicate Scene := wavering (.read "connection refused") .interrupted

/-- Polls of the two for one success find it at the same time, and polls for two in a row time out
at the same time; only then do the answers tell the failures apart. -/
theorem wavering_lockstep :
    CallsAgree (pollCalls waveringState tenSeconds rehearsal)
        (pollCalls waveringRead tenSeconds rehearsal) ∧
      Lockstep waveringState waveringRead waveringState.describe waveringRead.describe
        (pollUntil waveringState tenSeconds) (pollUntil waveringRead tenSeconds)
        (pollCalls waveringState tenSeconds rehearsal)
        (pollCalls waveringRead tenSeconds rehearsal) rehearsal rehearsal ∧
      (pollUntil waveringState tenSeconds).value rehearsal =
        (pollUntil waveringRead tenSeconds).value rehearsal ∧
      CallsAgree (steadyCalls waveringState twiceSteady tenSeconds rehearsal)
        (steadyCalls waveringRead twiceSteady tenSeconds rehearsal) ∧
      Lockstep waveringState waveringRead (waveringState.consistently twiceSteady).describe
        (waveringRead.consistently twiceSteady).describe
        (pollUntilConsistent waveringState twiceSteady tenSeconds)
        (pollUntilConsistent waveringRead twiceSteady tenSeconds)
        (steadyCalls waveringState twiceSteady tenSeconds rehearsal)
        (steadyCalls waveringRead twiceSteady tenSeconds rehearsal) rehearsal rehearsal ∧
      (pollUntilConsistent waveringState twiceSteady tenSeconds).value rehearsal ≠
        (pollUntilConsistent waveringRead twiceSteady tenSeconds).value rehearsal := by
  have hagree : CallsAgree (pollCalls waveringState tenSeconds rehearsal)
      (pollCalls waveringRead tenSeconds rehearsal) := by
    decide +kernel
  have hsteady : CallsAgree (steadyCalls waveringState twiceSteady tenSeconds rehearsal)
      (steadyCalls waveringRead twiceSteady tenSeconds rehearsal) := by
    decide +kernel
  obtain ⟨⟨-, -, hlockstep⟩, hconsistent⟩ :=
    pollUntil_lockstep waveringState waveringRead tenSeconds rehearsal rehearsal rfl
  obtain ⟨-, -, hlockstep'⟩ := hconsistent twiceSteady
  refine ⟨hagree, hlockstep hagree, ?_, hsteady, hlockstep' hsteady, ?_⟩
  · decide +kernel
  · decide +kernel

end ClusterReady

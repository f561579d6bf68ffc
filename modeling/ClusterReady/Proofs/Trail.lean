import ClusterReady.Proofs.CheckRun

/-!
# What a run adds to a trail

A trail is a list that a session keeps and that only grows: its requests, or its measurements.
`Trail.Adds` says what a step appends to it.  Neither the clock nor an event is part of a trail, so
what a loop appends is what the evaluations of its predicate append, one after the other; a check
appends besides what its one measurement counts for.
-/

namespace ClusterReady

variable {σ α β γ : Type}

/-- A list that a session keeps, which neither its clock nor its events are part of. -/
structure Session.Trail (σ γ : Type) where
  items : Session σ → List γ
  counts : Measurement → List γ
  items_note : ∀ (s : Session σ) (e : Event), items (s.note e) = items s
  items_withClock : ∀ (s : Session σ) (c : Clock), items (s.withClock c) = items s
  items_measured : ∀ (s : Session σ) (m : Measurement), items (s.measured m) = items s ++ counts m
  grows : ∀ {s t : Session σ}, s ≤ t → items s <+: items t

def requestTrail : Session.Trail σ Sending where
  items s := s.journal.requests.reverse
  counts _ := []
  items_note _ _ := rfl
  items_withClock _ _ := rfl
  items_measured _ _ := (List.append_nil _).symm
  grows h := List.reverse_prefix.mpr h.2.2.1

def measurementTrail : Session.Trail σ Measurement where
  items s := s.journal.measurements.reverse
  counts m := [m]
  items_note _ _ := rfl
  items_withClock _ _ := rfl
  items_measured _ _ := List.reverse_cons
  grows h := List.reverse_prefix.mpr h.2.2.2

namespace Session.Trail

variable (trail : Session.Trail σ γ)

/-- What is appended between two sessions. -/
def between (s t : Session σ) : List γ := (trail.items t).drop (trail.items s).length

def of (e : Evaluation σ) : List γ := trail.between e.before e.after

/-- From `s` the step appends these items. -/
def Adds (m : Step σ α) (s : Session σ) (more : List γ) : Prop :=
  trail.items (m.final s) = trail.items s ++ more

variable {trail} {m : Step σ α} {f : α → Step σ β} {s t : Session σ} {more rest : List γ}

theorem items_eq (h : s ≤ t) : trail.items t = trail.items s ++ trail.between s t :=
  (List.prefix_iff_eq_append.mp (trail.grows h)).symm

theorem between_eq (h : trail.items t = trail.items s ++ more) : trail.between s t = more := by
  rw [between, h, List.drop_left]

theorem Adds.between_eq (h : trail.Adds m s more) : trail.between s (m.final s) = more :=
  Trail.between_eq h

/-! ## Steps -/

theorem Adds.pure (a : α) (s : Session σ) : trail.Adds (Pure.pure a) s [] :=
  (List.append_nil _).symm

theorem Adds.bind
    (hm : trail.Adds m s more) (hf : trail.Adds (f (m.value s)) (m.final s) rest) :
    trail.Adds (m >>= f) s (more ++ rest) := by
  unfold Adds at hm hf ⊢
  rw [Run.final_bind, hf, hm, List.append_assoc]

theorem Adds.after
    (hm : trail.Adds m s []) (hf : trail.Adds (f (m.value s)) (m.final s) rest) :
    trail.Adds (m >>= f) s rest :=
  hm.bind hf

theorem Adds.before
    (hm : trail.Adds m s more) (hf : trail.Adds (f (m.value s)) (m.final s) []) :
    trail.Adds (m >>= f) s more := by
  have hall := hm.bind hf
  rw [List.append_nil] at hall
  exact hall

theorem Adds.note (e : Event) (s : Session σ) : trail.Adds (Step.note e) s [] := by
  unfold Adds
  rw [Step.final_note, trail.items_note, List.append_nil]

theorem Adds.measure (x : Measurement) (s : Session σ) :
    trail.Adds (Step.measure x) s (trail.counts x) :=
  trail.items_measured s x

theorem Adds.now (s : Session σ) : trail.Adds Step.now s [] :=
  (List.append_nil _).symm

theorem Adds.cancelled (s : Session σ) : trail.Adds Step.cancelled s [] :=
  (List.append_nil _).symm

variable (trail)

theorem items_doze (token : Token) (wake : Nat) (s : Session σ) :
    trail.items ((token.doze wake).final s) = trail.items s := by
  cases token with
  | run => exact trail.items_withClock s _
  | idle => exact trail.items_withClock s _

/-! ## Loops -/

theorem items_evaluation (p : Predicate σ) (token : Token) (s : Session σ) :
    trail.items (p.evaluation token s).after =
      trail.items s ++ trail.of (p.evaluation token s) :=
  items_eq ((p.check token).le_final s)

theorem items_pass
    {p : Predicate σ} {config : PollConfig} {start attempts : Nat}
    {last : Option CheckFailure} {tick : Tick}
    (h : Tick.Pass p config start attempts last s tick t) :
    trail.items t = trail.items s ++ (passCalls p s).flatMap trail.of := by
  have hafter := trail.items_evaluation p .run s
  have hcalls : s.cancelled = false →
      (passCalls p s).flatMap trail.of = trail.of (p.evaluation .run s) := by
    intro hs
    simp only [passCalls, hs, Bool.false_eq_true, if_false, List.flatMap_singleton]
  cases h with
  | unstarted hs => simp only [trail.items_note, passCalls, hs, if_true, List.flatMap_nil,
      List.append_nil]
  | met hs _ => rw [hcalls hs, trail.items_note, hafter]
  | cancelledInCall _ hs _ _ =>
      rw [hcalls hs, trail.items_note, Tick.told, trail.items_note, hafter]
  | expired _ hs _ _ _ =>
      rw [hcalls hs, trail.items_note, Tick.told, trail.items_note, hafter]
  | cancelledAsleep _ _ hs _ _ _ _ _ =>
      rw [hcalls hs, trail.items_note, trail.items_withClock, Tick.told, trail.items_note, hafter]
  | again _ hs _ _ _ =>
      rw [hcalls hs, trail.items_withClock, Tick.told, trail.items_note, hafter]

theorem items_pollRun
    {p : Predicate σ} {config : PollConfig} {start attempts : Nat}
    {last : Option CheckFailure} {calls : List (Evaluation σ)} {result : PollResult}
    (h : PollRun p config start attempts last s calls result t) :
    trail.items t = trail.items s ++ calls.flatMap trail.of := by
  induction h with
  | stop hpass => exact trail.items_pass hpass
  | next hpass _ ih =>
      have hfirst := trail.items_pass hpass
      rw [passCalls, hpass.again_spec.1, if_neg Bool.false_ne_true,
        List.flatMap_singleton] at hfirst
      rw [ih, hfirst, List.flatMap_cons, List.append_assoc]

theorem adds_pollUntil (p : Predicate σ) (config : PollConfig) (s : Session σ) :
    trail.Adds (pollUntil p config) s ((pollCalls p config s).flatMap trail.of) := by
  have hrun := trail.items_pollRun (pollUntil_run p config s)
  rw [trail.items_note] at hrun
  exact hrun

theorem items_streakRun
    {p : Predicate σ} {c : ConsistencyConfig} {token : Token} {left : Nat}
    {calls : List (Evaluation σ)} {verdict : Verdict}
    (h : StreakRun p c token left s calls verdict t) :
    trail.items t = trail.items s ++ calls.flatMap trail.of := by
  induction h with
  | none => simp
  | @broken _ s _ _ => simpa using trail.items_evaluation p token s
  | @complete s _ =>
      rw [streakPaused, trail.items_note, trail.items_evaluation, List.flatMap_singleton]
  | @interrupted _ s _ _ _ hpaused _ =>
      rw [trail.items_doze, hpaused, streakPaused, trail.items_note, trail.items_evaluation,
        List.flatMap_singleton]
  | next _ _ hpaused _ _ ih =>
      rw [ih, trail.items_doze, hpaused, streakPaused, trail.items_note, trail.items_evaluation,
        List.flatMap_cons, List.append_assoc]

/-- A tick of a steady predicate appends what the evaluations within it do. -/
theorem of_tick
    {p : Predicate σ} {c : ConsistencyConfig} {tick : Evaluation σ}
    (htick : tick = (p.consistently c).evaluation .run tick.before) :
    trail.of tick = (tickCalls p c tick.before).flatMap trail.of := by
  apply Trail.between_eq
  rw [htick]
  exact trail.items_streakRun (streak_run p c .run c.required tick.before)

theorem adds_pollUntilConsistent
    (p : Predicate σ) (c : ConsistencyConfig) (config : PollConfig) (s : Session σ) :
    trail.Adds (pollUntilConsistent p c config) s
      (((pollCalls (p.consistently c) config s).flatMap fun tick =>
        tickCalls p c tick.before).flatMap trail.of) := by
  have hadds := trail.adds_pollUntil (p.consistently c) config s
  have hticks : ∀ tick ∈ pollCalls (p.consistently c) config s,
      trail.of tick = (tickCalls p c tick.before).flatMap trail.of := by
    intro tick htick
    exact trail.of_tick ((pollUntil_run (p.consistently c) config s).of_mem tick htick).1
  rw [List.flatMap_congr hticks, ← List.flatMap_assoc] at hadds
  exact hadds

end Session.Trail

/-! ## Checks -/

open Session

variable {trail : Trail σ γ}

theorem CheckReport.adds_skip (name : String) (s : Session σ) :
    trail.Adds (skip name) s (trail.counts (.skipped name)) :=
  (Trail.Adds.measure _ _).before (Trail.Adds.pure _ _)

theorem CheckReport.adds_fail (name error : String) (s : Session σ) :
    trail.Adds (fail name error) s
      (trail.counts (.resolved name .failed 0 .zero)) :=
  (Trail.Adds.note _ _).after ((Trail.Adds.measure _ _).before (Trail.Adds.pure _ _))

namespace Check

def measurementOf (name : String) (elapsed : Duration) : PollResult → Measurement
  | .ok summary => .resolved name .passed summary.attempts summary.elapsed
  | .error e => .resolved name (if e.isCancelled then .cancelled else .failed) e.attempts elapsed

/-- The measurement that a check makes which begins in `s`. -/
def measurement (c : Check σ) (s : Session σ) : Measurement :=
  if s.cancelled then .skipped c.name
  else measurementOf c.name ⟨(c.wait.final (c.waiting s)).now - s.now⟩
    (c.wait.value (c.waiting s))

theorem adds_conclude (name : String) (start : Nat) (result : PollResult) (s : Session σ) :
    trail.Adds (conclude name start result) s
      (trail.counts (measurementOf name ⟨s.now - start⟩ result)) := by
  cases result with
  | ok summary => exact (Trail.Adds.measure _ _).before (Trail.Adds.pure _ _)
  | error e =>
      refine (Trail.Adds.now _).after ?_
      rw [Step.value_now, Step.final_now]
      cases hcancelled : e.isCancelled with
      | true =>
          simp only [measurementOf, hcancelled, if_true]
          refine (Trail.Adds.measure _ _).before ?_
          exact (Trail.Adds.note _ _).after (Trail.Adds.pure _ _)
      | false =>
          simp only [measurementOf, hcancelled, Bool.false_eq_true, if_false]
          refine (Trail.Adds.measure _ _).before ?_
          exact (Trail.Adds.note _ _).after (Trail.Adds.pure _ _)

theorem adds_wait {c : Check σ} {s : Session σ} (hs : s.cancelled = false) :
    trail.Adds c.wait (c.waiting s) ((c.evaluations s).flatMap trail.of) := by
  unfold wait evaluations
  rw [hs, if_neg Bool.false_ne_true]
  cases c.strategy with
  | poll config => exact trail.adds_pollUntil c.predicate config (c.waiting s)
  | consistent steady config =>
      exact trail.adds_pollUntilConsistent c.predicate steady config (c.waiting s)

theorem evaluations_of_cancelled {c : Check σ} {s : Session σ} (hs : s.cancelled = true) :
    c.evaluations s = [] := by
  rw [evaluations, hs, if_pos rfl]

/-- A check appends what its evaluations do, and then what its measurement counts for. -/
theorem adds_run (c : Check σ) (s : Session σ) :
    trail.Adds c.run s ((c.evaluations s).flatMap trail.of ++ trail.counts (c.measurement s)) := by
  unfold run measurement
  refine (Trail.Adds.cancelled _).after ?_
  rw [Step.value_cancelled, Step.final_cancelled]
  cases hs : s.cancelled with
  | true =>
      rw [evaluations_of_cancelled hs, List.flatMap_nil, List.nil_append]
      simp only [if_true]
      exact CheckReport.adds_skip c.name s
  | false =>
      simp only [Bool.false_eq_true, if_false]
      refine (Trail.Adds.note _ _).after ?_
      refine (Trail.Adds.now _).after ?_
      exact (adds_wait hs).bind (adds_conclude _ _ _ _)

end Check

end ClusterReady

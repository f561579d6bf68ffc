import ClusterReady.Proofs.SingleRead

/-!
# No read of a cancelled run

Between two sessions all reads are in time when each of them is sent in a session of the run that is
not cancelled.  Such stretches of a run are joined end to end.  An evaluation that begins in a run
which is not cancelled is one, and the loops begin no other, so a check is one as well.
-/

namespace ClusterReady

open Session (Trail)

variable {σ α β : Type}

theorem Session.Trail.between_append
    {γ : Type} {trail : Trail σ γ} {s m t : Session σ} (hsm : s ≤ m) (hmt : m ≤ t) :
    trail.between s t = trail.between s m ++ trail.between m t := by
  apply Trail.between_eq
  rw [Trail.items_eq hmt, Trail.items_eq hsm, List.append_assoc]

namespace Session

/-- The session `t` comes after `s`, and each read between them is sent in a session `u` that has
sent what comes before it, at the present instant of `u`, and in which the run is not cancelled. -/
structure ReadsInTime (s t : Session σ) : Prop where
  le : s ≤ t
  sent : ∀ earlier x later, requestTrail.between s t = earlier ++ x :: later →
    x.request.method = .get →
    ∃ u, s ≤ u ∧ u ≤ t ∧ requestTrail.between s u = earlier ∧ u.now = x.instant ∧
      u.cancelled = false

namespace ReadsInTime

variable {s m t : Session σ}

theorem of_items_eq
    (hle : s ≤ t) (h : requestTrail.items t = requestTrail.items s) : s.ReadsInTime t := by
  have hnone : requestTrail.between s t = [] := by
    apply Trail.between_eq
    rw [h, List.append_nil]
  refine ⟨hle, fun earlier x later hsplit _ => ?_⟩
  rw [hnone] at hsplit
  have hlength := congrArg List.length hsplit
  simp at hlength

theorem of_adds {step : Step σ α} (h : requestTrail.Adds step s []) :
    s.ReadsInTime (step.final s) := by
  apply of_items_eq (step.le_final s)
  unfold Trail.Adds at h
  rw [h, List.append_nil]

theorem refl (s : Session σ) : s.ReadsInTime s :=
  of_items_eq (Std.le_refl s) rfl

theorem trans (h : s.ReadsInTime m) (h' : m.ReadsInTime t) : s.ReadsInTime t := by
  refine ⟨Std.le_trans h.le h'.le, fun earlier x later hsplit hget => ?_⟩
  have hsecond : ∀ between, earlier = requestTrail.between s m ++ between →
      requestTrail.between m t = between ++ x :: later →
      ∃ u, s ≤ u ∧ u ≤ t ∧ requestTrail.between s u = earlier ∧ u.now = x.instant ∧
        u.cancelled = false := by
    intro between hearlier hrest
    obtain ⟨u, hmu, hut, hsent, hnow, hrunning⟩ := h'.sent between x later hrest hget
    refine ⟨u, Std.le_trans h.le hmu, hut, ?_, hnow, hrunning⟩
    rw [Trail.between_append h.le hmu, hsent, hearlier]
  rw [Trail.between_append h.le h'.le] at hsplit
  rcases List.append_eq_append_iff.mp hsplit with ⟨between, hearlier, hrest⟩ |
    ⟨between, hfirst, hrest⟩
  · exact hsecond between hearlier hrest
  · cases between with
    | nil =>
        -- the first stretch ends just before the read, which the second one sends
        apply hsecond []
        · rw [List.append_nil] at hfirst ⊢
          exact hfirst.symm
        · exact hrest.symm
    | cons y between =>
        rw [List.cons_append, List.cons.injEq] at hrest
        obtain ⟨rfl, -⟩ := hrest
        obtain ⟨u, hsu, hum, hsent, hnow, hrunning⟩ := h.sent earlier x between hfirst hget
        exact ⟨u, hsu, Std.le_trans hum h'.le, hsent, hnow, hrunning⟩

theorem before {step : Step σ α} (h : s.ReadsInTime m) (hstep : requestTrail.Adds step m []) :
    s.ReadsInTime (step.final m) :=
  h.trans (of_adds hstep)

/-- A read is sent before the cancellation or at its instant. -/
theorem instant_le
    (h : s.ReadsInTime t) {x : Sending} (hx : x ∈ requestTrail.between s t)
    (hget : x.request.method = .get) {instant : Nat}
    (hcancel : t.world.clock.cancelAt = some instant) : x.instant ≤ instant := by
  obtain ⟨earlier, later, hsplit⟩ := List.append_of_mem hx
  obtain ⟨u, -, hut, -, hnow, hrunning⟩ := h.sent earlier x later hsplit hget
  rw [← hnow]
  exact Clock.now_le_cancelAt hut.1 hrunning hcancel

theorem no_read
    (h : s.ReadsInTime t) (hs : s.cancelled = true) {x : Sending}
    (hx : x ∈ requestTrail.between s t) : x.request.method ≠ .get := by
  intro hget
  obtain ⟨earlier, later, hsplit⟩ := List.append_of_mem hx
  obtain ⟨u, hsu, -, -, -, hrunning⟩ := h.sent earlier x later hsplit hget
  have hcancelled := Session.cancelled_of_le hsu hs
  rw [hrunning] at hcancelled
  cases hcancelled

end ReadsInTime

end Session

open Session (ReadsInTime)

theorem SingleRead.readsInTime
    {m : Step σ α} {read : Option Request} (h : SingleRead m read) {s : Session σ}
    (hs : s.cancelled = false) : s.ReadsInTime (m.final s) := by
  refine ⟨m.le_final s, fun earlier x later hsplit _ => ?_⟩
  rw [(h.requests s).between_eq] at hsplit
  cases read with
  | none =>
      have hlength := congrArg List.length hsplit
      simp at hlength
  | some r =>
      have hone : [⟨s.now, r⟩] = earlier ++ x :: later := hsplit
      obtain ⟨rfl, rfl, -⟩ : earlier = [] ∧ x = ⟨s.now, r⟩ ∧ later = [] := by
        cases earlier with
        | nil => simpa [eq_comm] using hone
        | cons y rest =>
            have hlength := congrArg List.length hone
            simp at hlength
      refine ⟨s, Std.le_refl s, m.le_final s, ?_, rfl, hs⟩
      apply Trail.between_eq
      rw [List.append_nil]

theorem NoRead.readsInTime {m : Step σ α} {s : Session σ} (h : NoRead m s) :
    s.ReadsInTime (m.final s) := by
  obtain ⟨sent, hsent, hnone⟩ := h.requests
  refine ⟨m.le_final s, fun earlier x later hsplit hget => ?_⟩
  rw [hsent.between_eq] at hsplit
  exact absurd hget (hnone x (hsplit ▸ List.mem_append_right _ List.mem_cons_self))

/-! ## Loops -/

/-- The reads of a predicate are in time when it is evaluated in a run that is not cancelled. -/
def Predicate.ReadsInTime (p : Predicate σ) : Prop :=
  ∀ s : Session σ, s.cancelled = false → s.ReadsInTime (p.evaluation .run s).after

theorem Tick.Pass.readsInTime
    {p : Predicate σ} {config : PollConfig} {start attempts : Nat}
    {last : Option CheckFailure} {s t : Session σ} {tick : Tick} (hp : p.ReadsInTime)
    (h : Pass p config start attempts last s tick t) : s.ReadsInTime t := by
  cases hs : s.cancelled with
  | true =>
      rw [(h.of_cancelled hs).2]
      exact .of_items_eq (Session.le_note _ _) rfl
  | false =>
      have hitems := requestTrail.items_pass h
      rw [passCalls, hs, if_neg Bool.false_ne_true, List.flatMap_singleton,
        ← requestTrail.items_evaluation p .run s] at hitems
      exact (hp s hs).trans (.of_items_eq (h.after_le hs) hitems)

theorem PollRun.readsInTime
    {p : Predicate σ} {config : PollConfig} {start attempts : Nat}
    {last : Option CheckFailure} {s t : Session σ} {calls : List (Evaluation σ)}
    {result : PollResult} (hp : p.ReadsInTime)
    (h : PollRun p config start attempts last s calls result t) : s.ReadsInTime t := by
  induction h with
  | stop hpass => exact hpass.readsInTime hp
  | next hpass _ ih => exact (hpass.readsInTime hp).trans ih

theorem pollUntil_readsInTime
    {p : Predicate σ} (hp : p.ReadsInTime) (config : PollConfig) (s : Session σ) :
    s.ReadsInTime ((pollUntil p config).final s) := by
  have hnote := ReadsInTime.of_adds (Trail.Adds.note
    (.pollStarted p.describe config.timeout config.interval) s)
  exact hnote.trans ((pollUntil_run p config s).readsInTime hp)

/-- No evaluation of a streak begins in a run that is cancelled, however short its pauses. -/
theorem StreakRun.readsInTime
    {p : Predicate σ} {c : ConsistencyConfig} {left : Nat} {s t : Session σ}
    {calls : List (Evaluation σ)} {verdict : Verdict} (hp : p.ReadsInTime)
    (hs : s.cancelled = false) (h : StreakRun p c .run left s calls verdict t) :
    s.ReadsInTime t := by
  induction h with
  | none => exact .refl _
  | broken _ => exact hp _ hs
  | complete _ => exact (hp _ hs).before (Trail.Adds.note _ _)
  | @interrupted _ s paused _ _ hpaused _ =>
      have hgrown : s.ReadsInTime paused := by
        rw [hpaused]
        exact (hp _ hs).before (Trail.Adds.note _ _)
      exact hgrown.trans (.of_items_eq (Run.le_final _ _) (requestTrail.items_doze _ _ _))
  | @next _ s paused _ _ _ _ _ hpaused hdoze _ ih =>
      have hgrown : s.ReadsInTime paused := by
        rw [hpaused]
        exact (hp _ hs).before (Trail.Adds.note _ _)
      have hslept : paused.ReadsInTime
          ((Token.run.doze (paused.now + c.delay.nanos)).final paused) :=
        .of_items_eq (Run.le_final _ _) (requestTrail.items_doze _ _ _)
      -- the pause has ended on time, so the run is not cancelled when the streak goes on
      have hawake : ((Token.run.doze (paused.now + c.delay.nanos)).final paused).cancelled =
          false := Clock.not_cancelled_of_doze hdoze
      exact (hgrown.trans hslept).trans (ih hawake)

theorem Predicate.ReadsInTime.consistently
    {p : Predicate σ} (hp : p.ReadsInTime) (c : ConsistencyConfig) :
    (p.consistently c).ReadsInTime :=
  fun s hs => (streak_run p c .run c.required s).readsInTime hp hs

/-! ## Checks -/

namespace Check

theorem ReadsOnce.readsInTime {c : Check σ} (h : c.ReadsOnce) : c.predicate.ReadsInTime := by
  obtain ⟨read, hread⟩ := h
  exact fun s hs => (hread .run).readsInTime hs

theorem wait_readsInTime {c : Check σ} (hc : c.ReadsOnce) (s : Session σ) :
    s.ReadsInTime (c.wait.final s) := by
  have hp := hc.readsInTime
  unfold wait
  cases c.strategy with
  | poll config => exact pollUntil_readsInTime hp config s
  | consistent steady config => exact pollUntil_readsInTime (hp.consistently steady) config s

theorem run_readsInTime {c : Check σ} (hc : c.ReadsOnce) (s : Session σ) :
    s.ReadsInTime (c.run.final s) := by
  unfold run
  rw [Run.final_bind, Step.value_cancelled, Step.final_cancelled]
  by_cases hs : s.cancelled = true
  · rw [if_pos hs]
    exact .of_adds (CheckReport.adds_skip c.name s)
  · rw [if_neg hs]
    have hstarted : s.ReadsInTime (c.waiting s) := .of_adds (Trail.Adds.note _ s)
    exact (hstarted.trans (wait_readsInTime hc (c.waiting s))).before (adds_conclude _ _ _ _)

end Check

end ClusterReady

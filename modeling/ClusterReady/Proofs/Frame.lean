import ClusterReady.Proofs.Streak
import ClusterReady.Suite.Check

/-!
# What a run leaves as it was

`Run.Keeps` says that a run does not change what a function shows of the state.  A
`Session.View` shows what neither the clock nor the events and measurements of a session are part
of, so waiting does not change it: a loop changes of a view what its predicate does, and a check
no more than its wait.
-/

namespace ClusterReady

section Keeps

universe u v w

variable {S : Type u} [LE S] [Std.IsPreorder S] {α β : Type v} {γ : Type w}

/-- The run leaves what `see` shows of the state as it was. -/
def Run.Keeps (see : S → γ) (m : Run S α) : Prop :=
  ∀ s, see (m.final s) = see s

theorem Run.keeps_pure (see : S → γ) (a : α) : (pure a : Run S α).Keeps see := by
  intro s
  rfl

/-- What follows a run does not matter to a view that it keeps. -/
theorem Run.see_bind
    (see : S → γ) {m : Run S α} {f : α → Run S β}
    (hf : ∀ a, (f a).Keeps see) (s : S) : see ((m >>= f).final s) = see (m.final s) := by
  rw [Run.final_bind, hf]

theorem Run.Keeps.bind
    {see : S → γ} {m : Run S α} {f : α → Run S β}
    (hm : m.Keeps see) (hf : ∀ a, (f a).Keeps see) : (m >>= f).Keeps see := by
  intro s
  rw [Run.see_bind see hf, hm]

end Keeps

/-- A look at a session that shows neither its clock nor what it notes and measures. -/
structure Session.View (σ γ : Type) where
  see : Session σ → γ
  see_note : ∀ (s : Session σ) (e : Event), see (s.note e) = see s
  see_measured : ∀ (s : Session σ) (m : Measurement), see (s.measured m) = see s
  see_withClock : ∀ (s : Session σ) (c : Clock), see (s.withClock c) = see s

attribute [simp] Session.View.see_note Session.View.see_measured Session.View.see_withClock

namespace Session.View

variable {σ γ : Type} (view : Session.View σ γ)

theorem keeps_note (e : Event) : (Step.note e).Keeps view.see :=
  fun s => view.see_note s e

theorem keeps_measure (m : Measurement) : (Step.measure m).Keeps view.see :=
  fun s => view.see_measured s m

theorem keeps_now : (Step.now : Step σ Nat).Keeps view.see :=
  fun _ => rfl

theorem keeps_cancelled : (Step.cancelled : Step σ Bool).Keeps view.see :=
  fun _ => rfl

theorem keeps_doze (token : Token) (wake : Nat) : (token.doze wake).Keeps view.see := by
  intro s
  cases token with
  | run => exact view.see_withClock s _
  | idle => exact view.see_withClock s _

end Session.View

namespace Session.View

variable {σ γ : Type} {view : Session.View σ γ} {p : Predicate σ}

theorem see_pass
    {config : PollConfig} {start attempts : Nat} {last : Option CheckFailure}
    {s t : Session σ} {tick : Tick} (hp : (p.check .run).Keeps view.see)
    (h : Tick.Pass p config start attempts last s tick t) : view.see t = view.see s := by
  have hafter : view.see (p.evaluation .run s).after = view.see s := hp s
  cases h with
  | unstarted _ => simp
  | met _ _ => simp [hafter]
  | cancelledInCall _ _ _ _ => simp [Tick.told, hafter]
  | expired _ _ _ _ _ => simp [Tick.told, hafter]
  | cancelledAsleep _ _ _ _ _ _ _ _ => simp [Tick.told, hafter]
  | again _ _ _ _ _ => simp [Tick.told, hafter]

theorem see_pollRun
    {config : PollConfig} {start attempts : Nat} {last : Option CheckFailure}
    {s t : Session σ} {calls : List (Evaluation σ)} {result : PollResult}
    (hp : (p.check .run).Keeps view.see)
    (h : PollRun p config start attempts last s calls result t) : view.see t = view.see s := by
  induction h with
  | stop hpass => exact see_pass hp hpass
  | next hpass _ ih => rw [ih, see_pass hp hpass]

theorem keeps_pollUntil
    (hp : (p.check .run).Keeps view.see) (config : PollConfig) :
    (pollUntil p config).Keeps view.see := by
  intro s
  rw [see_pollRun hp (pollUntil_run p config s), view.see_note]

theorem see_streakRun
    {c : ConsistencyConfig} {token : Token} {left : Nat} {s t : Session σ}
    {calls : List (Evaluation σ)} {verdict : Verdict}
    (hp : (p.check token).Keeps view.see)
    (h : StreakRun p c token left s calls verdict t) : view.see t = view.see s := by
  have hafter : ∀ s, view.see (p.evaluation token s).after = view.see s := hp
  induction h with
  | none => rfl
  | broken _ => exact hafter _
  | complete _ => rw [streakPaused, view.see_note, hafter]
  | interrupted _ _ hpaused _ =>
      rw [view.keeps_doze, hpaused, streakPaused, view.see_note, hafter]
  | next _ _ hpaused _ _ ih =>
      rw [ih, view.keeps_doze, hpaused, streakPaused, view.see_note, hafter]

theorem keeps_consistently
    {token : Token} (hp : (p.check token).Keeps view.see) (c : ConsistencyConfig) :
    ((p.consistently c).check token).Keeps view.see :=
  fun s => see_streakRun hp (streak_run p c token c.required s)

theorem keeps_wait
    {c : Check σ} (hc : (c.predicate.check .run).Keeps view.see) : c.wait.Keeps view.see := by
  unfold Check.wait
  cases c.strategy with
  | poll config => exact keeps_pollUntil hc config
  | consistent steady config => exact keeps_pollUntil (keeps_consistently hc steady) config

theorem keeps_conclude (name : String) (start : Nat) (result : PollResult) :
    (Check.conclude name start result).Keeps view.see := by
  cases result with
  | ok summary => exact (view.keeps_measure _).bind fun _ => Run.keeps_pure _ _
  | error e =>
      refine view.keeps_now.bind fun present => ?_
      by_cases hcancelled : e.isCancelled = true
      · simp only [hcancelled, if_true]
        exact (view.keeps_measure _).bind fun _ => (view.keeps_note _).bind fun _ =>
          Run.keeps_pure _ _
      · simp only [hcancelled]
        exact (view.keeps_measure _).bind fun _ => (view.keeps_note _).bind fun _ =>
          Run.keeps_pure _ _

theorem keeps_skip (name : String) :
    (CheckReport.skip name : Step σ CheckReport).Keeps view.see :=
  (view.keeps_measure _).bind fun _ => Run.keeps_pure _ _

theorem keeps_fail (name error : String) :
    (CheckReport.fail name error : Step σ CheckReport).Keeps view.see :=
  (view.keeps_note _).bind fun _ => (view.keeps_measure _).bind fun _ => Run.keeps_pure _ _

theorem keeps_check
    {c : Check σ} (hc : (c.predicate.check .run).Keeps view.see) : c.run.Keeps view.see := by
  refine view.keeps_cancelled.bind fun cancelled => ?_
  cases cancelled with
  | true => exact keeps_skip c.name
  | false =>
      refine (view.keeps_note _).bind fun _ => ?_
      refine view.keeps_now.bind fun start => ?_
      exact (keeps_wait hc).bind fun result => keeps_conclude c.name start result

theorem keeps_runAll
    {checks : List (Check σ)} (h : ∀ c ∈ checks, (c.predicate.check .run).Keeps view.see) :
    (Check.runAll checks).Keeps view.see := by
  induction checks with
  | nil => exact Run.keeps_pure _ _
  | cons c rest ih =>
      obtain ⟨hc, hrest⟩ := List.forall_mem_cons.mp h
      exact (keeps_check hc).bind fun _ => (ih hrest).bind fun _ => Run.keeps_pure _ _

end Session.View

end ClusterReady

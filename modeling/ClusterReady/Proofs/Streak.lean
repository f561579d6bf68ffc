import ClusterReady.Proofs.PollRun

/-!
# Streaks, evaluation by evaluation

The evaluations of the inner predicate in one evaluation of a steady one.  A streak that holds has
made all the evaluations that are asked of it; each holds and follows the one before it after the
pause, with nothing in between.
-/

namespace ClusterReady

variable {σ : Type}

/-! ## The parts of a streak -/

/-- The step `next` when this one succeeds. -/
def Step.onSuccess (m next : Step σ Verdict) : Step σ Verdict := do
  match ← m with
  | .error failure => return .error failure
  | .ok () => next

/-- The step `next` after a pause that is not cancelled. -/
def Step.afterPause (token : Token) (pause : Duration) (next : Step σ Verdict) :
    Step σ Verdict := do
  match ← token.doze ((← Step.now) + pause.nanos) with
  | .cancelled => return .error .interrupted
  | .onTime => next

/-- What is left of a streak after a success when it lacks `left` others. -/
def streakRest (p : Predicate σ) (c : ConsistencyConfig) (token : Token) (left : Nat) :
    Step σ Verdict :=
  if left = 0 then return .ok () else Step.afterPause token c.delay (streak p c token left)

theorem streak_succ (p : Predicate σ) (c : ConsistencyConfig) (token : Token) (left : Nat) :
    streak p c token (left + 1) = (p.check token).onSuccess (do
      Step.note (.streakGrew p.describe (c.required - left) c.required)
      streakRest p c token left) :=
  rfl

/-! ## The evaluations of a streak -/

def streakPaused (p : Predicate σ) (c : ConsistencyConfig) (left : Nat) (s : Session σ) :
    Session σ :=
  s.note (.streakGrew p.describe (c.required - left) c.required)

/-- The evaluations of `p` in a streak that lacks `left` successes. -/
def streakCalls (p : Predicate σ) (c : ConsistencyConfig) (token : Token) :
    (left : Nat) → Session σ → List (Evaluation σ)
  | 0, _ => []
  | left + 1, s =>
    let e := p.evaluation token s
    e :: match e.verdict with
      | .error _ => []
      | .ok () =>
        if left = 0 then []
        else
          let paused := streakPaused p c left e.after
          match (token.doze (paused.now + c.delay.nanos)).value paused with
          | .cancelled => []
          | .onTime =>
            streakCalls p c token left ((token.doze (paused.now + c.delay.nanos)).final paused)

/-- The evaluations of `p` that a streak makes after a success when it lacks `left` others. -/
def restCalls (p : Predicate σ) (c : ConsistencyConfig) (token : Token) (left : Nat)
    (paused : Session σ) : List (Evaluation σ) :=
  if left = 0 then []
  else match (token.doze (paused.now + c.delay.nanos)).value paused with
    | .cancelled => []
    | .onTime => streakCalls p c token left ((token.doze (paused.now + c.delay.nanos)).final paused)

/-- The evaluations of `p` in one evaluation of the steady predicate that begins in `s`. -/
def tickCalls (p : Predicate σ) (c : ConsistencyConfig) (s : Session σ) : List (Evaluation σ) :=
  streakCalls p c .run c.required s

/-- The evaluation `d` follows `e` after a pause, in which nothing has happened outside and no
request was sent. -/
structure Evaluation.Follows (pause : Nat) (e d : Evaluation σ) : Prop where
  start_eq : d.start = e.finish + pause
  outside_eq : d.before.world.outside = e.after.world.outside
  requests_eq : d.before.journal.requests = e.after.journal.requests

/-- A sleep that is not cancelled ends on time and changes nothing but the clock. -/
theorem Token.doze_onTime {token : Token} {wake : Nat} {s : Session σ}
    (h : (token.doze wake).value s = .onTime) :
    ((token.doze wake).final s).now = max s.now wake ∧
      ((token.doze wake).final s).world.outside = s.world.outside ∧
      ((token.doze wake).final s).journal = s.journal := by
  cases token with
  | run => exact ⟨Clock.now_doze_of_onTime h, rfl, rfl⟩
  | idle => exact ⟨rfl, rfl, rfl⟩

/-- A streak from `s` that lacks `left` successes: its evaluations, its verdict and the session that
it leaves.  It is broken by a failure, complete with the last success, interrupted in the pause
after another one, or goes on behind the pause. -/
inductive StreakRun (p : Predicate σ) (c : ConsistencyConfig) (token : Token) :
    Nat → Session σ → List (Evaluation σ) → Verdict → Session σ → Prop where
  | none {s : Session σ} : StreakRun p c token 0 s [] (.ok ()) s
  | broken {left : Nat} {s : Session σ} {failure : CheckFailure}
      (hv : (p.evaluation token s).verdict = .error failure) :
      StreakRun p c token (left + 1) s [p.evaluation token s] (.error failure)
        (p.evaluation token s).after
  | complete {s : Session σ} (hv : (p.evaluation token s).verdict = .ok ()) :
      StreakRun p c token 1 s [p.evaluation token s] (.ok ())
        (streakPaused p c 0 (p.evaluation token s).after)
  | interrupted {left : Nat} {s paused : Session σ} (hleft : left ≠ 0)
      (hv : (p.evaluation token s).verdict = .ok ())
      (hpaused : paused = streakPaused p c left (p.evaluation token s).after)
      (hdoze : (token.doze (paused.now + c.delay.nanos)).value paused = .cancelled) :
      StreakRun p c token (left + 1) s [p.evaluation token s] (.error .interrupted)
        ((token.doze (paused.now + c.delay.nanos)).final paused)
  | next {left : Nat} {s paused t : Session σ} {calls : List (Evaluation σ)} {verdict : Verdict}
      (hleft : left ≠ 0) (hv : (p.evaluation token s).verdict = .ok ())
      (hpaused : paused = streakPaused p c left (p.evaluation token s).after)
      (hdoze : (token.doze (paused.now + c.delay.nanos)).value paused = .onTime)
      (hrest : StreakRun p c token left
        ((token.doze (paused.now + c.delay.nanos)).final paused) calls verdict t) :
      StreakRun p c token (left + 1) s (p.evaluation token s :: calls) verdict t

theorem streak_run
    (p : Predicate σ) (c : ConsistencyConfig) (token : Token) (left : Nat) (s : Session σ) :
    StreakRun p c token left s (streakCalls p c token left s)
      ((streak p c token left).value s) ((streak p c token left).final s) := by
  induction left generalizing s with
  | zero => exact .none
  | succ left ih =>
      simp only [streak, streakCalls, Run.value_bind, Run.final_bind]
      cases hv : (p.evaluation token s).verdict with
      | error failure =>
          have hcheck : (p.check token).value s = .error failure := hv
          simp only [hcheck, Run.value_pure, Run.final_pure]
          exact .broken hv
      | ok u =>
          have hcheck : (p.check token).value s = .ok () := hv
          simp only [hcheck, Run.value_bind, Run.final_bind]
          by_cases hleft : left = 0
          · subst hleft
            simp only [if_true, Run.value_pure, Run.final_pure]
            exact .complete hv
          · simp only [hleft, if_false, Run.value_bind, Run.final_bind]
            have hpaused : (Step.note (.streakGrew p.describe (c.required - left) c.required)).final
                ((p.check token).final s) =
                  streakPaused p c left (p.evaluation token s).after := rfl
            simp only [Step.value_now, Step.final_now, hpaused]
            cases hdoze : (token.doze
                ((streakPaused p c left (p.evaluation token s).after).now + c.delay.nanos)).value
                  (streakPaused p c left (p.evaluation token s).after) with
            | cancelled =>
                simp only [Run.value_pure, Run.final_pure]
                exact .interrupted hleft hv rfl hdoze
            | onTime => exact .next hleft hv rfl hdoze (ih _)

namespace StreakRun

variable {p : Predicate σ} {c : ConsistencyConfig} {token : Token} {left : Nat}
variable {s t : Session σ} {calls : List (Evaluation σ)} {verdict : Verdict}

theorem of_mem (h : StreakRun p c token left s calls verdict t) :
    ∀ e ∈ calls, e = p.evaluation token e.before := by
  induction h with
  | none => simp
  | broken _ => simp
  | complete _ => simp
  | interrupted _ _ _ _ => simp
  | next _ _ _ _ _ ih =>
      intro e he
      rcases List.mem_cons.mp he with rfl | he
      · rfl
      · exact ih e he

theorem exists_cons (h : StreakRun p c token left s calls verdict t) (hleft : left ≠ 0) :
    ∃ rest, calls = p.evaluation token s :: rest := by
  cases h with
  | none => exact absurd rfl hleft
  | broken _ => exact ⟨[], rfl⟩
  | complete _ => exact ⟨[], rfl⟩
  | interrupted _ _ _ _ => exact ⟨[], rfl⟩
  | next _ _ _ _ _ => exact ⟨_, rfl⟩

/-- A streak that holds has made all its evaluations, and all of them hold. -/
theorem of_ok (h : StreakRun p c token left s calls verdict t) (hverdict : verdict = .ok ()) :
    calls.length = left ∧ ∀ e ∈ calls, e.verdict = .ok () := by
  induction h with
  | none => simp
  | broken _ => cases hverdict
  | complete hv => simp [hv]
  | interrupted _ _ _ _ => cases hverdict
  | next _ hv _ _ _ ih =>
      obtain ⟨hlength, hall⟩ := ih hverdict
      constructor
      · rw [List.length_cons, hlength]
      · intro e he
        rcases List.mem_cons.mp he with rfl | he
        · exact hv
        · exact hall e he

/-- The evaluations of a streak follow each other after its pause. -/
theorem isChain (h : StreakRun p c token left s calls verdict t) :
    calls.IsChain (Evaluation.Follows c.delay.nanos) := by
  induction h with
  | none => exact .nil
  | broken _ => exact .singleton _
  | complete _ => exact .singleton _
  | interrupted _ _ _ _ => exact .singleton _
  | next hleft _ hpaused hdoze hrest ih =>
      obtain ⟨rest, rfl⟩ := hrest.exists_cons hleft
      obtain ⟨hnow, houtside, hjournal⟩ := Token.doze_onTime hdoze
      refine List.isChain_cons_cons.mpr ⟨⟨?_, ?_, ?_⟩, ih⟩
      · rw [Evaluation.start, Predicate.evaluation_before, hnow, hpaused]
        exact Nat.max_eq_right (Nat.le_add_right _ _)
      · rw [Predicate.evaluation_before, houtside, hpaused]
        rfl
      · rw [Predicate.evaluation_before, hjournal, hpaused]
        rfl

end StreakRun

end ClusterReady

import ClusterReady.Proofs.Streak

/-!
# The evaluations that a run really makes

The evaluations of a loop are computed beside it by `pollCalls` and `tickCalls`.  A recorded
predicate writes each of its evaluations into a diary that lies outside of the run, and changes
nothing else.  The loops leave in the diary just what these functions say, and the rest of the
session as it is without a diary.
-/

namespace ClusterReady

variable {σ α β : Type}

/-- What lies outside of a run, with a diary of evaluations. -/
structure Diary (σ : Type) where
  outside : σ
  entries : List (Evaluation σ)

namespace Session

/-- The session with a diary beside it. -/
def opened (s : Session σ) (entries : List (Evaluation σ)) : Session (Diary σ) where
  world := ⟨s.world.clock, ⟨s.world.outside, entries⟩⟩
  journal := s.journal

def closed (t : Session (Diary σ)) : Session σ where
  world := ⟨t.world.clock, t.world.outside.outside⟩
  journal := t.journal

end Session

/-- The predicate that writes its evaluations into the diary. -/
def Predicate.recorded (p : Predicate σ) : Predicate (Diary σ) where
  describe := p.describe
  check token t :=
    ⟨((p.check token).value t.closed,
      ((p.check token).final t.closed).opened
        (t.world.outside.entries ++ [p.evaluation token t.closed])),
      (p.check token).le_final t.closed⟩

/-- From `s` the run `m` does what `n` does and writes `calls` into the diary. -/
def Writes (m : Step (Diary σ) α) (n : Step σ α) (calls : List (Evaluation σ)) (s : Session σ) :
    Prop :=
  ∀ entries, m.value (s.opened entries) = n.value s ∧
    m.final (s.opened entries) = (n.final s).opened (entries ++ calls)

namespace Writes

variable {m : Step (Diary σ) α} {n : Step σ α} {f : α → Step (Diary σ) β} {g : α → Step σ β}
variable {calls more : List (Evaluation σ)} {s : Session σ}

theorem recorded (p : Predicate σ) (token : Token) (s : Session σ) :
    Writes (p.recorded.check token) (p.check token) [p.evaluation token s] s :=
  fun _ => ⟨rfl, rfl⟩

/-- A step that neither sees the diary nor changes it writes nothing. -/
theorem nothing
    (h : ∀ entries, m.value (s.opened entries) = n.value s ∧
      m.final (s.opened entries) = (n.final s).opened entries) : Writes m n [] s := by
  intro entries
  rw [List.append_nil]
  exact h entries

theorem pure (a : α) (s : Session σ) : Writes (Pure.pure a) (Pure.pure a) [] s :=
  nothing fun _ => ⟨rfl, rfl⟩

theorem bind
    (hm : Writes m n calls s) (hf : Writes (f (n.value s)) (g (n.value s)) more (n.final s)) :
    Writes (m >>= f) (n >>= g) (calls ++ more) s := by
  intro entries
  obtain ⟨hvalue, hfinal⟩ := hm entries
  obtain ⟨hvalue', hfinal'⟩ := hf (entries ++ calls)
  constructor
  · rw [Run.value_bind, Run.value_bind, hvalue, hfinal, hvalue']
  · rw [Run.final_bind, Run.final_bind, hvalue, hfinal, hfinal', List.append_assoc]

theorem after
    (hm : Writes m n [] s) (hf : Writes (f (n.value s)) (g (n.value s)) more (n.final s)) :
    Writes (m >>= f) (n >>= g) more s :=
  hm.bind hf

theorem before
    (hm : Writes m n calls s) (hf : Writes (f (n.value s)) (g (n.value s)) [] (n.final s)) :
    Writes (m >>= f) (n >>= g) calls s := by
  have hall := hm.bind hf
  rw [List.append_nil] at hall
  exact hall

theorem note (e : Event) (s : Session σ) : Writes (Step.note e) (Step.note e) [] s :=
  nothing fun _ => ⟨rfl, rfl⟩

theorem measure (x : Measurement) (s : Session σ) :
    Writes (Step.measure x) (Step.measure x) [] s :=
  nothing fun _ => ⟨rfl, rfl⟩

theorem now (s : Session σ) : Writes Step.now Step.now [] s :=
  nothing fun _ => ⟨rfl, rfl⟩

theorem cancelled (s : Session σ) : Writes Step.cancelled Step.cancelled [] s :=
  nothing fun _ => ⟨rfl, rfl⟩

theorem doze (token : Token) (wake : Nat) (s : Session σ) :
    Writes (token.doze wake) (token.doze wake) [] s := by
  cases token with
  | run => exact nothing fun _ => ⟨rfl, rfl⟩
  | idle => exact nothing fun _ => ⟨rfl, rfl⟩

/-! ## Streaks -/

/-- A streak writes what its evaluations do. -/
theorem streak_of {q : Predicate (Diary σ)} {p : Predicate σ} {token : Token}
    {calls : Session σ → List (Evaluation σ)} (hdescribe : q.describe = p.describe)
    (hcheck : ∀ s, Writes (q.check token) (p.check token) (calls s) s)
    (c : ConsistencyConfig) (left : Nat) (s : Session σ) :
    Writes (ClusterReady.streak q c token left) (ClusterReady.streak p c token left)
      ((streakCalls p c token left s).flatMap fun e => calls e.before) s := by
  induction left generalizing s with
  | zero => exact pure _ s
  | succ left ih =>
      rw [streakCalls, List.flatMap_cons]
      refine (hcheck s).bind ?_
      have hverdict : (p.evaluation token s).verdict = (p.check token).value s := rfl
      rw [hverdict]
      cases hv : (p.check token).value s with
      | error failure => exact pure _ _
      | ok u =>
          rw [hdescribe]
          refine (note _ _).after ?_
          by_cases hleft : left = 0
          · simp only [hleft, if_true]
            exact pure _ _
          · simp only [hleft, if_false]
            refine (now _).after ?_
            refine (doze token _ _).after ?_
            have hpaused : streakPaused p c left (p.evaluation token s).after =
                (Step.note (.streakGrew p.describe (c.required - left) c.required)).final
                  ((p.check token).final s) := rfl
            simp only [hpaused, Step.value_now, Step.final_now]
            cases (token.doze _).value _ with
            | cancelled => exact pure _ _
            | onTime => exact ih _

theorem streak (p : Predicate σ) (c : ConsistencyConfig) (token : Token) (left : Nat)
    (s : Session σ) :
    Writes (ClusterReady.streak p.recorded c token left) (ClusterReady.streak p c token left)
      (streakCalls p c token left s) s := by
  have hwrites := streak_of (q := p.recorded) rfl (recorded p token) c left s
  have heach : ∀ e ∈ streakCalls p c token left s, [p.evaluation token e.before] = [e] := by
    intro e he
    rw [← (streak_run p c token left s).of_mem e he]
  rw [List.flatMap_congr heach, List.flatMap_singleton'] at hwrites
  exact hwrites

end Writes

/-! ## Loops -/

/-- The predicate `q` does what `p` does, and writes `calls s` when it is evaluated in `s`. -/
structure Mirrors (q : Predicate (Diary σ)) (p : Predicate σ)
    (calls : Session σ → List (Evaluation σ)) : Prop where
  describe : q.describe = p.describe
  check : ∀ s, Writes (q.check .run) (p.check .run) (calls s) s

theorem Predicate.recorded_mirrors (p : Predicate σ) :
    Mirrors p.recorded p fun s => [p.evaluation .run s] :=
  ⟨rfl, Writes.recorded p .run⟩

theorem Predicate.consistently_mirrors (p : Predicate σ) (c : ConsistencyConfig) :
    Mirrors (p.recorded.consistently c) (p.consistently c) (tickCalls p c) :=
  ⟨rfl, Writes.streak p c .run c.required⟩

namespace Mirrors

variable {q : Predicate (Diary σ)} {p : Predicate σ} {calls : Session σ → List (Evaluation σ)}

theorem giveUp (describe : String) (attempts : Nat) (last : Option CheckFailure) (s : Session σ) :
    Writes (Tick.giveUp describe attempts last) (Tick.giveUp describe attempts last) [] s :=
  (Writes.note _ _).after (Writes.pure _ _)

theorem report (describe : String) (start attempt : Nat) (failure : CheckFailure)
    (s : Session σ) :
    Writes (Tick.report describe start attempt failure)
      (Tick.report describe start attempt failure) [] s := by
  refine (Writes.now _).after ?_
  by_cases hwarn : attempt % warnEvery = 0
  · simp only [hwarn, if_true]
    exact Writes.note _ _
  · simp only [hwarn, if_false]
    exact Writes.note _ _

theorem afterFailure (describe : String) (config : PollConfig) (start began attempt : Nat)
    (failure : CheckFailure) (s : Session σ) :
    Writes (Tick.afterFailure describe config start began attempt failure)
      (Tick.afterFailure describe config start began attempt failure) [] s := by
  refine (Writes.cancelled _).after ?_
  cases Step.cancelled.value s with
  | true => exact giveUp _ _ _ _
  | false =>
      refine (Writes.now _).after ?_
      by_cases hlate : start + config.timeout.nanos ≤ Step.now.value (Step.cancelled.final s)
      · simp only [hlate, if_true]
        exact (Writes.note _ _).after (Writes.pure _ _)
      · simp only [hlate, if_false]
        refine (Writes.doze .run _ _).after ?_
        cases (Token.run.doze _).value _ with
        | cancelled => exact giveUp _ _ _ _
        | onTime => exact Writes.pure _ _

theorem pass (h : Mirrors q p calls) (config : PollConfig) (start attempts : Nat)
    (last : Option CheckFailure) (s : Session σ) :
    Writes (Tick.pass q config start attempts last) (Tick.pass p config start attempts last)
      ((passCalls p s).flatMap fun e => calls e.before) s := by
  unfold Tick.pass
  rw [h.describe]
  refine (Writes.cancelled _).after ?_
  rw [Step.value_cancelled, Step.final_cancelled]
  cases hs : s.cancelled with
  | true =>
      simp only [passCalls, hs, if_true, List.flatMap_nil]
      exact giveUp _ _ _ _
  | false =>
      simp only [passCalls, hs, Bool.false_eq_true, if_false, List.flatMap_singleton]
      refine (Writes.now _).after ?_
      refine (h.check s).before ?_
      cases (p.check .run).value s with
      | ok _ =>
          refine (Writes.now _).after ?_
          exact (Writes.note _ _).after (Writes.pure _ _)
      | error failure => exact (report _ _ _ _ _).after (afterFailure _ _ _ _ _ _ _)

theorem pollFrom (h : Mirrors q p calls) (config : PollConfig) (start attempts : Nat)
    (last : Option CheckFailure) (s : Session σ) :
    Writes (ClusterReady.pollFrom q config start attempts last)
      (ClusterReady.pollFrom p config start attempts last)
      ((pollCallsFrom p config start attempts last s).flatMap fun e => calls e.before) s := by
  induction attempts, last, s using pollCallsFrom.induct p config start with
  | case1 attempts last s ih =>
      rw [pollFrom_eq, pollFrom_eq, pollCallsFrom, List.flatMap_append]
      refine (h.pass config start attempts last s).bind ?_
      cases hvalue : (Tick.pass p config start attempts last).value s with
      | done result => exact Writes.pure _ _
      | again failure => exact ih failure hvalue

theorem pollUntil (h : Mirrors q p calls) (config : PollConfig) (s : Session σ) :
    Writes (ClusterReady.pollUntil q config) (ClusterReady.pollUntil p config)
      ((pollCalls p config s).flatMap fun e => calls e.before) s := by
  unfold ClusterReady.pollUntil
  rw [h.describe]
  refine (Writes.now _).after ?_
  refine (Writes.note _ _).after ?_
  exact h.pollFrom config s.now 0 none _

end Mirrors

/-- The evaluations that a poll makes are those of `pollCalls`. -/
theorem pollUntil_recorded (p : Predicate σ) (config : PollConfig) (s : Session σ) :
    Writes (pollUntil p.recorded config) (pollUntil p config) (pollCalls p config s) s := by
  have hwrites := p.recorded_mirrors.pollUntil config s
  rw [(pollUntil_run p config s).flatMap_evaluation] at hwrites
  exact hwrites

/-- The evaluations that a poll for several successes in a row makes are those of its ticks. -/
theorem pollUntilConsistent_recorded
    (p : Predicate σ) (c : ConsistencyConfig) (config : PollConfig) (s : Session σ) :
    Writes (pollUntilConsistent p.recorded c config) (pollUntilConsistent p c config)
      ((pollCalls (p.consistently c) config s).flatMap fun tick => tickCalls p c tick.before) s :=
  (p.consistently_mirrors c).pollUntil config s

end ClusterReady

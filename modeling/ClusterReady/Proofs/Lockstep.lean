import ClusterReady.Proofs.Streak

/-!
# Loops in lockstep

Two loops that start at the same instant stay together as long as their evaluations do: when the
same ones hold, they end at the same instants, and they cancel the run at the same instants.
`Step.Meets` relates what two steps do from two given sessions, by a relation `V` between their
values and a relation `Q` between the sessions.  A loop may write of other things than the other
one, so `Q` cannot look at events; and `F` says what a failure may be when the other one is known.
-/

namespace ClusterReady

variable {σ τ α β γ δ : Type}

/-- Sessions that are related have the same clock, and what a loop does itself keeps them so. -/
structure Session.Bond (Q : Session σ → Session τ → Prop) : Prop where
  clock : ∀ {s : Session σ} {t : Session τ}, Q s t → s.world.clock = t.world.clock
  note : ∀ {s : Session σ} {t : Session τ}, Q s t → ∀ e e', Q (s.note e) (t.note e')
  withClock : ∀ {s : Session σ} {t : Session τ}, Q s t → ∀ c, Q (s.withClock c) (t.withClock c)

namespace Session.Bond

variable {Q : Session σ → Session τ → Prop} {s : Session σ} {t : Session τ}

theorem now_eq (hQ : Bond Q) (hst : Q s t) : s.now = t.now := congrArg Clock.now (hQ.clock hst)

theorem cancelled_eq (hQ : Bond Q) (hst : Q s t) : s.cancelled = t.cancelled :=
  congrArg Clock.cancelled (hQ.clock hst)

end Session.Bond

open Session (Bond)

/-- From these sessions the steps give a `value` that `V` relates and a `final` session that `Q`
relates. -/
structure Step.Meets (Q : Session σ → Session τ → Prop) (V : α → β → Prop) (m : Step σ α)
    (n : Step τ β) (s : Session σ) (t : Session τ) : Prop where
  value : V (m.value s) (n.value t)
  final : Q (m.final s) (n.final t)

namespace Step.Meets

variable {Q : Session σ → Session τ → Prop} {V : α → β → Prop} {W : γ → δ → Prop}
variable {s : Session σ} {t : Session τ}

theorem pure {a : α} {b : β} (h : V a b) (hst : Q s t) :
    Meets Q V (Pure.pure a : Step σ α) (Pure.pure b : Step τ β) s t :=
  ⟨h, hst⟩

theorem bind_of_eq
    {m : Step σ α} {n : Step τ β} {f : α → Step σ γ} {g : β → Step τ δ} {a : α} {b : β}
    (ha : m.value s = a) (hb : n.value t = b)
    (hrest : Meets Q W (f a) (g b) (m.final s) (n.final t)) :
    Meets Q W (m >>= f) (n >>= g) s t := by
  subst ha hb
  exact ⟨hrest.value, hrest.final⟩

theorem bind
    {m : Step σ α} {n : Step τ β} {f : α → Step σ γ} {g : β → Step τ δ} (hm : Meets Q V m n s t)
    (hf : ∀ a b, V a b → Q (m.final s) (n.final t) →
      Meets Q W (f a) (g b) (m.final s) (n.final t)) :
    Meets Q W (m >>= f) (n >>= g) s t :=
  bind_of_eq rfl rfl (hf _ _ hm.value hm.final)

theorem after
    {m : Step σ α} {n : Step τ α} {f : α → Step σ γ} {g : α → Step τ δ} (hm : Meets Q Eq m n s t)
    (hf : ∀ a, m.value s = a → Q (m.final s) (n.final t) →
      Meets Q W (f a) (g a) (m.final s) (n.final t)) :
    Meets Q W (m >>= f) (n >>= g) s t :=
  bind_of_eq rfl hm.value.symm (hf _ rfl hm.final)

variable (hQ : Bond Q) (hst : Q s t)

include hQ hst

theorem note (e e' : Event) :
    Meets Q Eq (Step.note e : Step σ Unit) (Step.note e' : Step τ Unit) s t :=
  ⟨rfl, hQ.note hst e e'⟩

theorem now : Meets Q Eq (Step.now : Step σ Nat) (Step.now : Step τ Nat) s t :=
  ⟨hQ.now_eq hst, hst⟩

theorem cancelled : Meets Q Eq (Step.cancelled : Step σ Bool) (Step.cancelled : Step τ Bool) s t :=
  ⟨hQ.cancelled_eq hst, hst⟩

theorem doze (token : Token) (wake : Nat) :
    Meets Q Eq (token.doze wake : Step σ Clock.Woken) (token.doze wake : Step τ Clock.Woken)
      s t := by
  have hclock := hQ.clock hst
  cases token with
  | run =>
      have hdoze : s.world.clock.doze wake = t.world.clock.doze wake :=
        congrArg (·.doze wake) hclock
      have hvalue : (s.world.clock.doze wake).1 = (t.world.clock.doze wake).1 :=
        congrArg Prod.fst hdoze
      refine ⟨hvalue, ?_⟩
      change Q (s.withClock (s.world.clock.doze wake).2) (t.withClock (t.world.clock.doze wake).2)
      rw [← hdoze]
      exact hQ.withClock hst _
  | idle =>
      refine ⟨rfl, ?_⟩
      change Q (s.withClock (s.world.clock.sleep wake)) (t.withClock (t.world.clock.sleep wake))
      rw [← hclock]
      exact hQ.withClock hst _

end Step.Meets

open Step (Meets)

/-! ## Answers that match -/

/-- Both hold, or both fail with failures that `F` relates. -/
inductive Verdict.Matches (F : CheckFailure → CheckFailure → Prop) : Verdict → Verdict → Prop where
  | held : Matches F (.ok ()) (.ok ())
  | failed {failure failure' : CheckFailure} (h : F failure failure') :
      Matches F (.error failure) (.error failure')

/-- The same answers of polls of something that is described as `shown` and as `describe`, but for
the failures that they carry, which `F` relates. -/
inductive PollResult.Matches (F : CheckFailure → CheckFailure → Prop) (shown describe : String) :
    PollResult → PollResult → Prop where
  | met (summary : PollSummary) : Matches F shown describe (.ok summary) (.ok summary)
  | timedOut (attempts : Nat) (elapsed : Duration) {last last' : CheckFailure} (h : F last last') :
      Matches F shown describe (.error (.timedOut shown attempts elapsed last))
        (.error (.timedOut describe attempts elapsed last'))
  | cancelled (attempts : Nat) {last last' : Option CheckFailure} (h : Option.Rel F last last') :
      Matches F shown describe (.error (.cancelled shown attempts last))
        (.error (.cancelled describe attempts last'))

/-- Both passes end the loop, with the same answer but for the failures, or neither does. -/
inductive Tick.Matches (F : CheckFailure → CheckFailure → Prop) (shown describe : String) :
    Tick → Tick → Prop where
  | done {result result' : PollResult} (h : result.Matches F shown describe result') :
      Matches F shown describe (.done result) (.done result')
  | again {failure failure' : CheckFailure} (h : F failure failure') :
      Matches F shown describe (.again failure) (.again failure')

/-- The evaluations begin and end in sessions that `Q` relates, and their verdicts match. -/
structure Evaluation.Paired (Q : Session σ → Session τ → Prop)
    (F : CheckFailure → CheckFailure → Prop) (e : Evaluation σ) (d : Evaluation τ) : Prop where
  before : Q e.before d.before
  verdict : Verdict.Matches F e.verdict d.verdict
  after : Q e.after d.after

/-! ## One pass -/

section Loops

variable {Q : Session σ → Session τ → Prop} {F : CheckFailure → CheckFailure → Prop}
variable {p : Predicate σ} {q : Predicate τ} {s : Session σ} {t : Session τ}
variable {last last' : Option CheckFailure}

theorem Evaluation.Paired.meets {token : Token}
    (h : (p.evaluation token s).Paired Q F (q.evaluation token t)) :
    Meets Q (Verdict.Matches F) (p.check token) (q.check token) s t :=
  ⟨h.verdict, h.after⟩

namespace Tick

variable (hQ : Bond Q) (hst : Q s t)

include hQ hst

theorem giveUp_meets (shown describe : String) (attempts : Nat)
    (hlast : Option.Rel F last last') :
    Meets Q (Tick.Matches F shown describe) (giveUp shown attempts last)
      (giveUp describe attempts last') s t := by
  refine (Meets.note hQ hst _ _).after fun _ _ hst => ?_
  exact .pure (.done (.cancelled attempts hlast)) hst

theorem report_meets (shown describe : String) (start attempt : Nat)
    (failure failure' : CheckFailure) :
    Meets Q Eq (report shown start attempt failure) (report describe start attempt failure')
      s t := by
  refine (Meets.now hQ hst).after fun present _ hst => ?_
  by_cases hwarn : attempt % warnEvery = 0
  · simp only [hwarn, if_true]
    exact .note hQ hst _ _
  · simp only [hwarn, if_false]
    exact .note hQ hst _ _

theorem afterFailure_meets (shown describe : String) (config : PollConfig)
    (start began attempt : Nat) {failure failure' : CheckFailure} (hfailure : F failure failure') :
    Meets Q (Tick.Matches F shown describe)
      (afterFailure shown config start began attempt failure)
      (afterFailure describe config start began attempt failure') s t := by
  refine (Meets.cancelled hQ hst).after fun cancelled _ hst => ?_
  cases cancelled with
  | true => exact giveUp_meets hQ hst _ _ _ (.some hfailure)
  | false =>
      refine (Meets.now hQ hst).after fun present _ hst => ?_
      by_cases hlate : start + config.timeout.nanos ≤ present
      · simp only [hlate, if_true]
        refine (Meets.note hQ hst _ _).after fun _ _ hst => ?_
        exact .pure (.done (.timedOut attempt _ hfailure)) hst
      · simp only [hlate, if_false]
        refine (Meets.doze hQ hst .run _).after fun woken _ hst => ?_
        cases woken with
        | cancelled => exact giveUp_meets hQ hst _ _ _ (.some hfailure)
        | onTime => exact .pure (.again hfailure) hst

theorem pass_meets (config : PollConfig) (start attempts : Nat) (hlast : Option.Rel F last last')
    (hpair : s.cancelled = false → (p.evaluation .run s).Paired Q F (q.evaluation .run t)) :
    Meets Q (Tick.Matches F p.describe q.describe) (pass p config start attempts last)
      (pass q config start attempts last') s t := by
  refine (Meets.cancelled hQ hst).after fun cancelled hcancelled hst => ?_
  cases cancelled with
  | true => exact giveUp_meets hQ hst _ _ _ hlast
  | false =>
      refine (Meets.now hQ hst).after fun began _ _ => ?_
      refine (hpair hcancelled).meets.bind fun verdict verdict' hverdict hst => ?_
      cases hverdict with
      | held =>
          refine (Meets.now hQ hst).after fun present _ hst => ?_
          refine (Meets.note hQ hst _ _).after fun _ _ hst => ?_
          exact .pure (.done (.met _)) hst
      | failed hfailure =>
          refine (report_meets hQ hst _ _ _ _ _ _).after fun _ _ hst => ?_
          exact afterFailure_meets hQ hst _ _ _ _ _ _ hfailure

end Tick

/-! ## Whole runs -/

/-- What `A` says of all evaluations that two runs have yet to make gives `R` for the next ones of
`p` and of `q`, and `A` for the others. -/
def InStep (Q : Session σ → Session τ → Prop)
    (A : List (Evaluation σ) → List (Evaluation τ) → Prop)
    (R : Evaluation σ → Evaluation τ → Prop) (token : Token) (p : Predicate σ) (q : Predicate τ) :
    Prop :=
  ∀ s t rest rest', Q s t → A (p.evaluation token s :: rest) (q.evaluation token t :: rest') →
    R (p.evaluation token s) (q.evaluation token t) ∧ A rest rest'

section Runs

variable {A : List (Evaluation σ) → List (Evaluation τ) → Prop}
variable {R : Evaluation σ → Evaluation τ → Prop}
variable (hQ : Bond Q) (hpaired : ∀ e d, R e d → e.Paired Q F d)

include hQ

theorem passCalls_paired (hst : Q s t)
    (hfirst : s.cancelled = false → R (p.evaluation .run s) (q.evaluation .run t)) :
    List.Forall₂ R (passCalls p s) (passCalls q t) := by
  unfold passCalls
  rw [← hQ.cancelled_eq hst]
  by_cases hs : s.cancelled = true
  · rw [if_pos hs, if_pos hs]
    exact .nil
  · rw [if_neg hs, if_neg hs]
    exact .cons (hfirst (Bool.not_eq_true _ ▸ hs)) .nil

include hpaired

/-- Loops meet whose evaluations are paired, each given the ones before. -/
theorem pollFrom_meets
    (hstep : InStep Q A R .run p q)
    (config : PollConfig) (start attempts : Nat) (hst : Q s t) (hlast : Option.Rel F last last')
    (hcalls : A (pollCallsFrom p config start attempts last s)
      (pollCallsFrom q config start attempts last' t)) :
    Meets Q (PollResult.Matches F p.describe q.describe) (pollFrom p config start attempts last)
        (pollFrom q config start attempts last') s t ∧
      List.Forall₂ R (pollCallsFrom p config start attempts last s)
        (pollCallsFrom q config start attempts last' t) := by
  induction attempts, last, s using pollCallsFrom.induct p config start generalizing last' t with
  | case1 attempts last s ih =>
      rw [pollCallsFrom_eq, pollCallsFrom_eq] at hcalls
      have hst' : s.cancelled = t.cancelled := hQ.cancelled_eq hst
      have hfirst : s.cancelled = false → R (p.evaluation .run s) (q.evaluation .run t) := by
        intro hs
        rw [passCalls, hs, passCalls, hst'.symm.trans hs] at hcalls
        exact (hstep _ _ _ _ hst hcalls).1
      have hpasses := passCalls_paired hQ hst hfirst
      have hpass := Tick.pass_meets hQ hst config start attempts hlast
        fun hs => hpaired _ _ (hfirst hs)
      have hticks := hpass.value
      rw [pollFrom_eq, pollFrom_eq, pollCallsFrom_eq, pollCallsFrom_eq]
      generalize htick' : (Tick.pass q config start attempts last').value t = tick' at hticks
      cases htick : (Tick.pass p config start attempts last).value s with
      | done result =>
          rw [htick] at hticks
          cases hticks with
          | done hresult =>
              simp only [List.append_nil]
              exact ⟨.bind_of_eq htick htick' (.pure hresult hpass.final), hpasses⟩
      | again failure =>
          rw [htick] at hticks
          cases hticks with
          | again hfailure =>
              -- the pass has made an evaluation, so what is known of the others stays known
              have hspec := Tick.pass_spec p config start attempts last s
              rw [htick] at hspec
              have hs : s.cancelled = false := hspec.again_spec.1
              rw [passCalls, hs, passCalls, hst'.symm.trans hs, htick, htick'] at hcalls
              have hrest := (hstep _ _ _ _ hst hcalls).2
              obtain ⟨hmeets, hpairs⟩ := ih failure htick hpass.final (.some hfailure) hrest
              exact ⟨.bind_of_eq htick htick' hmeets, List.rel_append hpasses hpairs⟩

theorem pollUntil_meets
    (hstep : InStep Q A R .run p q)
    (config : PollConfig) (hst : Q s t)
    (hcalls : A (pollCalls p config s) (pollCalls q config t)) :
    Meets Q (PollResult.Matches F p.describe q.describe) (pollUntil p config) (pollUntil q config)
        s t ∧
      List.Forall₂ R (pollCalls p config s) (pollCalls q config t) := by
  have hstarted := hQ.note hst (.pollStarted p.describe config.timeout config.interval)
    (.pollStarted q.describe config.timeout config.interval)
  rw [pollCalls, pollCalls, ← hQ.now_eq hst] at hcalls ⊢
  obtain ⟨hmeets, hpairs⟩ :=
    pollFrom_meets hQ hpaired hstep config s.now 0 hstarted .none hcalls
  refine ⟨.bind_of_eq rfl (hQ.now_eq hst).symm ?_, hpairs⟩
  exact .bind_of_eq rfl rfl hmeets

section Streaks

variable {token : Token} {c : ConsistencyConfig} {more : List (Evaluation σ)}
variable {more' : List (Evaluation τ)} (hinterrupted : F .interrupted .interrupted)

include hinterrupted

omit hpaired in
theorem streakRest_meets {left : Nat}
    (hstreak : ∀ s t, Q s t →
      A (streakCalls p c token left s ++ more) (streakCalls q c token left t ++ more') →
      Meets Q (Verdict.Matches F) (streak p c token left) (streak q c token left) s t ∧
        List.Forall₂ R (streakCalls p c token left s) (streakCalls q c token left t) ∧
        A more more')
    (hst : Q s t)
    (hcalls : A (restCalls p c token left s ++ more) (restCalls q c token left t ++ more')) :
    Meets Q (Verdict.Matches F) (streakRest p c token left) (streakRest q c token left) s t ∧
      List.Forall₂ R (restCalls p c token left s) (restCalls q c token left t) ∧
      A more more' := by
  unfold restCalls at hcalls ⊢
  unfold streakRest
  by_cases hleft : left = 0
  · simp only [hleft, if_true] at hcalls ⊢
    exact ⟨.pure .held hst, .nil, hcalls⟩
  · simp only [hleft, if_false, ← hQ.now_eq hst] at hcalls ⊢
    have hnow : (Step.now : Step τ Nat).value t = s.now := (hQ.now_eq hst).symm
    obtain ⟨hwoken, hrested⟩ := Meets.doze hQ hst token (s.now + c.delay.nanos)
    cases hvalue : (token.doze (s.now + c.delay.nanos)).value s with
    | cancelled =>
        have hvalue' := hwoken.symm.trans hvalue
        simp only [hvalue, hvalue'] at hcalls ⊢
        refine ⟨.bind_of_eq rfl hnow (.bind_of_eq hvalue hvalue' ?_), .nil, hcalls⟩
        exact .pure (.failed hinterrupted) hrested
    | onTime =>
        have hvalue' := hwoken.symm.trans hvalue
        simp only [hvalue, hvalue'] at hcalls ⊢
        obtain ⟨hmeets, hpairs, hmore⟩ := hstreak _ _ hrested hcalls
        exact ⟨.bind_of_eq rfl hnow (.bind_of_eq hvalue hvalue' hmeets), hpairs, hmore⟩

/-- Streaks meet whose evaluations are paired, each given the ones before; what is known of the
evaluations that come `more` is kept. -/
theorem streak_meets
    (hstep : InStep Q A R token p q)
    (left : Nat) (hst : Q s t)
    (hcalls : A (streakCalls p c token left s ++ more) (streakCalls q c token left t ++ more')) :
    Meets Q (Verdict.Matches F) (streak p c token left) (streak q c token left) s t ∧
      List.Forall₂ R (streakCalls p c token left s) (streakCalls q c token left t) ∧
      A more more' := by
  induction left generalizing s t with
  | zero => exact ⟨.pure .held hst, .nil, hcalls⟩
  | succ left ih =>
      obtain ⟨hfirst, hcalls⟩ := hstep _ _ _ _ hst hcalls
      have hpair := hpaired _ _ hfirst
      have hverdict := hpair.verdict
      rw [streak_succ, streak_succ, streakCalls, streakCalls]
      generalize hv : (p.evaluation token s).verdict = verdict at hverdict hcalls ⊢
      generalize hv' : (q.evaluation token t).verdict = verdict' at hverdict hcalls ⊢
      cases hverdict with
      | failed hfailure =>
          refine ⟨.bind_of_eq hv hv' ?_, .cons hfirst .nil, hcalls⟩
          exact .pure (.failed hfailure) hpair.after
      | held =>
          have hpaused := hQ.note hpair.after
            (.streakGrew p.describe (c.required - left) c.required)
            (.streakGrew q.describe (c.required - left) c.required)
          obtain ⟨hrest, hpairs, hmore⟩ :=
            streakRest_meets hQ hinterrupted (fun _ _ => ih) hpaused hcalls
          refine ⟨.bind_of_eq hv hv' ?_, .cons hfirst hpairs, hmore⟩
          exact .bind_of_eq rfl rfl hrest

end Streaks

end Runs

end Loops

end ClusterReady

import ClusterReady.Proofs.Diary
import ClusterReady.Proofs.StableWindow
import Mathlib.Algebra.Ring.Nat

/-!
# The course of a streak

What one evaluation of a steady predicate does, by the verdicts of the predicate inside and by the
instant at which the token is cancelled.  The streak goes through the next evaluations of the
predicate, a pause after each other, up to the first that fails; only a cancellation by the end of a
pause breaks it off before, and then at that instant.  There is no pause before the first evaluation
and none after the last, where a cancellation comes too late to matter.
-/

namespace ClusterReady

variable {σ : Type}

/-! ## Pauses -/

/-- The instant at which the token is cancelled, as far as it is settled in a session. -/
def Token.cancelAt (token : Token) (s : Session σ) : Option Nat :=
  match token with
  | .run => s.world.clock.cancelAt
  | .idle => none

/-- A pause ends at the cancellation of the token, which may be past already, when that comes by the
end of the pause; otherwise it ends on time. -/
theorem Token.doze_cases (token : Token) (s : Session σ) (pause : Nat) :
    (∃ fired, token.cancelAt s = some fired ∧ fired ≤ s.now + pause ∧
      (token.doze (s.now + pause)).value s = .cancelled ∧
      (token.doze (s.now + pause)).final s = s.withClock (s.world.clock.sleep fired)) ∨
    ((∀ fired, token.cancelAt s = some fired → s.now + pause < fired) ∧
      (token.doze (s.now + pause)).value s = .onTime ∧
      (token.doze (s.now + pause)).final s = s.withClock (s.world.clock.elapse pause)) := by
  cases token with
  | run =>
      simp only [doze, Step.value_doze, Step.final_doze]
      rcases s.world.clock.doze_pause pause with ⟨fired, hat, hle, hdoze⟩ | ⟨hbefore, hdoze⟩
      · refine Or.inl ⟨fired, hat, hle, ?_⟩
        rw [Session.now, hdoze]
        exact ⟨rfl, rfl⟩
      · refine Or.inr ⟨hbefore, ?_⟩
        rw [Session.now, hdoze]
        exact ⟨rfl, rfl⟩
  | idle =>
      refine Or.inr ⟨?_, rfl, ?_⟩
      · intro fired hfired
        cases hfired
      · rw [← Clock.sleep_pause]
        rfl

/-! ## What the predicate says next -/

def Evaluation.duration (e : Evaluation σ) : Nat := e.finish - e.start

/-- The session after a success and the whole of the pause that follows it. -/
def streakRested (p : Predicate σ) (c : ConsistencyConfig) (left : Nat) (s : Session σ) :
    Session σ :=
  (streakPaused p c left s).withClock (s.world.clock.elapse c.delay.nanos)

/-- The next evaluations of `p`, each the whole pause after the one before, whatever they say and
whoever cancels them. -/
def nextEvaluations (p : Predicate σ) (c : ConsistencyConfig) (token : Token) :
    (left : Nat) → Session σ → List (Evaluation σ)
  | 0, _ => []
  | left + 1, s =>
    let e := p.evaluation token s
    e :: nextEvaluations p c token left (streakRested p c left e.after)

/-- How a streak goes that begins in `s` and asks for `required` successes, when it makes these
evaluations, has this verdict and ends in `t`.  Its evaluations are the next ones of the predicate,
a pause apart.  A failure ends it, and so does the token in the pause after a success; an
`undisturbed` one takes as long as its evaluations and the pauses in between. -/
structure StreakCourse (p : Predicate σ) (c : ConsistencyConfig) (token : Token) (required : Nat)
    (s : Session σ) (calls : List (Evaluation σ)) (verdict : Verdict) (t : Session σ) : Prop where
  taken : calls <+: nextEvaluations p c token required s
  first : ∃ e, calls[0]? = some e ∧ e.start = s.now
  spaced : ∀ (k : Nat) (e d : Evaluation σ), calls[k]? = some e → calls[k + 1]? = some d →
    d.start = e.finish + c.delay.nanos
  broken : ∀ (k : Nat) (e : Evaluation σ) (failure : CheckFailure), calls[k]? = some e →
    e.verdict = .error failure →
    calls.length = k + 1 ∧ verdict = .error failure ∧ t.now = e.finish
  interrupted : ∀ (k : Nat) (e : Evaluation σ) (fired : Nat), calls[k]? = some e →
    e.verdict = .ok () → k + 1 < required → token.cancelAt e.after = some fired →
    fired ≤ e.finish + c.delay.nanos →
    calls.length = k + 1 ∧ verdict = .error .interrupted ∧ t.now = max e.finish fired
  goesOn : ∀ (k : Nat) (e : Evaluation σ), calls[k]? = some e → e.verdict = .ok () →
    k + 1 < required →
    (∀ fired, token.cancelAt e.after = some fired → e.finish + c.delay.nanos < fired) →
    ∃ d, calls[k + 1]? = some d
  complete : ∀ (k : Nat) (e : Evaluation σ), calls[k]? = some e → e.verdict = .ok () →
    k + 1 = required → calls.length = required ∧ verdict = .ok () ∧ t.now = e.finish
  undisturbed : (∀ fired, token.cancelAt t = some fired → t.now < fired) →
    let next := nextEvaluations p c token required s
    calls = next.take (next.findIdx Evaluation.failed + 1) ∧
      verdict = (next.find? Evaluation.failed).elim (.ok ()) Evaluation.verdict ∧
      t.now = s.now + (calls.map Evaluation.duration).sum + (calls.length - 1) * c.delay.nanos

/-! ## Every streak goes so -/

theorem eq_of_getElem?_singleton {α : Type} {a b : α} {k : Nat} (h : [a][k]? = some b) :
    k = 0 ∧ b = a := by
  obtain ⟨hk, hb⟩ := List.getElem?_eq_some_iff.mp h
  obtain rfl : k = 0 := Nat.lt_one_iff.mp hk
  exact ⟨rfl, hb.symm⟩

theorem Predicate.finish_evaluation (p : Predicate σ) (token : Token) (s : Session σ) :
    (p.evaluation token s).finish = s.now + (p.evaluation token s).duration :=
  (Nat.add_sub_cancel' (Session.now_le ((p.check token).le_final s))).symm

section Pause

variable {p : Predicate σ} {c : ConsistencyConfig} {token : Token} {left : Nat}
variable {s paused : Session σ}

/-- A streak that is broken off in a pause ends at the cancellation of the token. -/
theorem Token.cancelled_pause (hpaused : paused = streakPaused p c left s)
    (hdoze : (token.doze (paused.now + c.delay.nanos)).value paused = .cancelled) :
    ∃ fired, token.cancelAt s = some fired ∧ fired ≤ s.now + c.delay.nanos ∧
      token.cancelAt ((token.doze (paused.now + c.delay.nanos)).final paused) = some fired ∧
      ((token.doze (paused.now + c.delay.nanos)).final paused).now = max s.now fired := by
  subst hpaused
  rcases token.doze_cases (streakPaused p c left s) c.delay.nanos with
    ⟨fired, hat, hle, -, hfinal⟩ | ⟨-, hvalue, -⟩
  · rw [hfinal]
    cases token with
    | run => exact ⟨fired, hat, hle, hat, rfl⟩
    | idle => exact ⟨fired, hat, hle, hat, rfl⟩
  · cases hdoze.symm.trans hvalue

theorem Token.onTime_pause (hpaused : paused = streakPaused p c left s)
    (hdoze : (token.doze (paused.now + c.delay.nanos)).value paused = .onTime) :
    (∀ fired, token.cancelAt s = some fired → s.now + c.delay.nanos < fired) ∧
      (token.doze (paused.now + c.delay.nanos)).final paused = streakRested p c left s := by
  subst hpaused
  rcases token.doze_cases (streakPaused p c left s) c.delay.nanos with
    ⟨_, -, -, hvalue, -⟩ | ⟨hbefore, -, hfinal⟩
  · cases hdoze.symm.trans hvalue
  · exact ⟨hbefore, hfinal⟩

end Pause

namespace StreakRun

variable {p : Predicate σ} {c : ConsistencyConfig} {token : Token} {left : Nat}
variable {s t : Session σ} {calls : List (Evaluation σ)} {verdict : Verdict}

theorem undisturbed (h : StreakRun p c token left s calls verdict t)
    (hquiet : ∀ fired, token.cancelAt t = some fired → t.now < fired) :
    calls = (nextEvaluations p c token left s).take
        ((nextEvaluations p c token left s).findIdx Evaluation.failed + 1) ∧
      verdict = ((nextEvaluations p c token left s).find? Evaluation.failed).elim (.ok ())
        Evaluation.verdict ∧
      t.now = s.now + (calls.map Evaluation.duration).sum +
        (calls.length - 1) * c.delay.nanos := by
  induction h with
  | none => exact ⟨rfl, rfl, by simp⟩
  | @broken left s failure hv =>
      have hfailed := Evaluation.failed_of_error hv
      refine ⟨?_, ?_, ?_⟩
      · rw [nextEvaluations, List.findIdx_cons, hfailed]
        rfl
      · rw [nextEvaluations, List.find?_cons_of_pos hfailed, Option.elim_some, hv]
      · simp only [List.map_singleton, List.sum_singleton, List.length_singleton, Nat.sub_self,
          Nat.zero_mul, Nat.add_zero]
        exact p.finish_evaluation token s
  | @complete s hv =>
      have hheld := Evaluation.not_failed_of_ok hv
      refine ⟨?_, ?_, ?_⟩
      · rw [nextEvaluations, nextEvaluations, List.findIdx_cons, hheld]
        rfl
      · rw [nextEvaluations, nextEvaluations, List.find?_cons_of_neg (by simp [hheld])]
        rfl
      · simp only [List.map_singleton, List.sum_singleton, List.length_singleton, Nat.sub_self,
          Nat.zero_mul, Nat.add_zero]
        exact p.finish_evaluation token s
  | interrupted _ _ hpaused hdoze =>
      obtain ⟨fired, -, -, hat, hend⟩ := Token.cancelled_pause hpaused hdoze
      have hearly := hquiet fired hat
      rw [hend] at hearly
      exact absurd (Nat.le_max_right _ _) (Nat.not_le.mpr hearly)
  | @next left s paused t calls verdict hleft hv hpaused hdoze hrest ih =>
      have hheld := Evaluation.not_failed_of_ok hv
      obtain ⟨e, rest, hcalls⟩ : ∃ e rest, calls = e :: rest := by
        obtain ⟨rest, hrest⟩ := hrest.exists_cons hleft
        exact ⟨_, rest, hrest⟩
      rw [(Token.onTime_pause hpaused hdoze).2] at ih
      obtain ⟨htaken, hverdict, hend⟩ := ih hquiet
      refine ⟨?_, ?_, ?_⟩
      · rw [nextEvaluations, List.findIdx_cons, hheld, cond_false, List.take_succ_cons, ← htaken]
      · rw [nextEvaluations, List.find?_cons_of_neg (by simp [hheld]), hverdict]
      · have hnow : (streakRested p c left (p.evaluation token s).after).now =
            s.now + (p.evaluation token s).duration + c.delay.nanos :=
          congrArg (· + c.delay.nanos) (p.finish_evaluation token s)
        have hpauses : calls.length * c.delay.nanos =
            (calls.length - 1) * c.delay.nanos + c.delay.nanos := by
          rw [hcalls, List.length_cons, Nat.add_sub_cancel, Nat.add_mul, Nat.one_mul]
        rw [hend, hnow, List.map_cons, List.sum_cons, List.length_cons, Nat.add_sub_cancel,
          hpauses]
        omega

theorem taken (h : StreakRun p c token left s calls verdict t) :
    calls <+: nextEvaluations p c token left s := by
  induction h with
  | none => exact List.prefix_rfl
  | broken _ => exact ⟨_, rfl⟩
  | complete _ => exact List.prefix_rfl
  | interrupted _ _ _ _ => exact ⟨_, rfl⟩
  | next _ _ hpaused hdoze _ ih =>
      rw [(Token.onTime_pause hpaused hdoze).2] at ih
      exact List.cons_prefix_cons.mpr ⟨rfl, ih⟩

/-- A failure ends a streak, and is its verdict. -/
theorem broken_at (h : StreakRun p c token left s calls verdict t) {k : Nat} {e : Evaluation σ}
    {failure : CheckFailure} (he : calls[k]? = some e) (hv : e.verdict = .error failure) :
    calls.length = k + 1 ∧ verdict = .error failure ∧ t.now = e.finish := by
  induction h generalizing k with
  | none => cases he
  | broken hbroken =>
      obtain ⟨rfl, rfl⟩ := eq_of_getElem?_singleton he
      cases hbroken.symm.trans hv
      exact ⟨rfl, rfl, rfl⟩
  | complete hok =>
      obtain ⟨rfl, rfl⟩ := eq_of_getElem?_singleton he
      cases hok.symm.trans hv
  | interrupted _ hok _ _ =>
      obtain ⟨rfl, rfl⟩ := eq_of_getElem?_singleton he
      cases hok.symm.trans hv
  | next _ hok _ _ _ ih =>
      cases k with
      | zero =>
          cases he
          cases hok.symm.trans hv
      | succ k =>
          rw [List.getElem?_cons_succ] at he
          obtain ⟨hlength, hverdict, hend⟩ := ih he
          exact ⟨congrArg (· + 1) hlength, hverdict, hend⟩

/-- What follows a success: the end of a streak that is complete, the end in the pause in which the
token is cancelled, or another evaluation. -/
theorem held_at (h : StreakRun p c token left s calls verdict t) {k : Nat} {e : Evaluation σ}
    (he : calls[k]? = some e) (hv : e.verdict = .ok ()) :
    (k + 1 = left ∧ calls.length = left ∧ verdict = .ok () ∧ t.now = e.finish) ∨
    (k + 1 < left ∧ ∃ fired, token.cancelAt e.after = some fired ∧
      fired ≤ e.finish + c.delay.nanos ∧ calls.length = k + 1 ∧
      verdict = .error .interrupted ∧ t.now = max e.finish fired) ∨
    (k + 1 < left ∧ (∀ fired, token.cancelAt e.after = some fired →
      e.finish + c.delay.nanos < fired) ∧ ∃ d, calls[k + 1]? = some d) := by
  induction h generalizing k with
  | none => cases he
  | broken hbroken =>
      obtain ⟨rfl, rfl⟩ := eq_of_getElem?_singleton he
      cases hbroken.symm.trans hv
  | complete _ =>
      obtain ⟨rfl, rfl⟩ := eq_of_getElem?_singleton he
      exact Or.inl ⟨rfl, rfl, rfl, rfl⟩
  | interrupted hleft _ hpaused hdoze =>
      obtain ⟨rfl, rfl⟩ := eq_of_getElem?_singleton he
      obtain ⟨fired, hat, hle, -, hend⟩ := Token.cancelled_pause hpaused hdoze
      exact Or.inr (Or.inl ⟨by omega, fired, hat, hle, rfl, rfl, hend⟩)
  | next hleft _ hpaused hdoze hrest ih =>
      cases k with
      | zero =>
          cases he
          obtain ⟨rest, rfl⟩ := hrest.exists_cons hleft
          exact Or.inr (Or.inr ⟨by omega, (Token.onTime_pause hpaused hdoze).1, _, rfl⟩)
      | succ k =>
          rw [List.getElem?_cons_succ] at he
          rcases ih he with ⟨hk, hlength, hend⟩ | ⟨hk, fired, hat, hle, hlength, hend⟩ |
            ⟨hk, hlater, d, hd⟩
          · exact Or.inl ⟨congrArg (· + 1) hk, congrArg (· + 1) hlength, hend⟩
          · exact Or.inr (Or.inl ⟨Nat.succ_lt_succ hk, fired, hat, hle, congrArg (· + 1) hlength,
              hend⟩)
          · exact Or.inr (Or.inr ⟨Nat.succ_lt_succ hk, hlater, d, hd⟩)

/-- A streak that asks for a success at least takes its course. -/
theorem course (h : StreakRun p c token left s calls verdict t) (hleft : left ≠ 0) :
    StreakCourse p c token left s calls verdict t := by
  constructor
  · exact h.taken
  · obtain ⟨rest, rfl⟩ := h.exists_cons hleft
    exact ⟨_, rfl, rfl⟩
  · intro k e d he hd
    obtain ⟨hk, rfl⟩ := List.getElem?_eq_some_iff.mp he
    obtain ⟨hk', rfl⟩ := List.getElem?_eq_some_iff.mp hd
    exact (h.isChain.getElem k hk').start_eq
  · intro k e failure he hv
    exact h.broken_at he hv
  · intro k e fired he hv hmore hat hle
    rcases h.held_at he hv with ⟨hk, -⟩ | ⟨-, at', hat', -, hend⟩ | ⟨-, hlater, -⟩
    · omega
    · cases hat.symm.trans hat'
      exact hend
    · exact absurd hle (Nat.not_le.mpr (hlater fired hat))
  · intro k e he hv hmore hlater
    rcases h.held_at he hv with ⟨hk, -⟩ | ⟨-, fired, hat, hle, -⟩ | ⟨-, -, hnext⟩
    · omega
    · exact absurd hle (Nat.not_le.mpr (hlater fired hat))
    · exact hnext
  · intro k e he hv hlast
    rcases h.held_at he hv with ⟨-, hend⟩ | ⟨hk, -⟩ | ⟨hk, -⟩
    · exact hend
    · omega
    · omega
  · exact h.undisturbed

end StreakRun

/-- One evaluation of a steady predicate makes the evaluations of its streak, and no other, and goes
as a streak does, whatever the token hears and whatever the predicate does to it. -/
theorem consistently_course (p : Predicate σ) (c : ConsistencyConfig) (token : Token)
    (s : Session σ) :
    Writes ((p.recorded.consistently c).check token) ((p.consistently c).check token)
        (streakCalls p c token c.required s) s ∧
      StreakCourse p c token c.required s (streakCalls p c token c.required s)
        ((p.consistently c).evaluation token s).verdict
        ((p.consistently c).evaluation token s).after :=
  ⟨Writes.streak p c token c.required s,
    (streak_run p c token c.required s).course (Nat.ne_of_gt c.required_pos)⟩

end ClusterReady

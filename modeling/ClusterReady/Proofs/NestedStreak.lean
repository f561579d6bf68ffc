import ClusterReady.Proofs.Blindness
import ClusterReady.Proofs.PollSchedule

/-!
# Streaks of streaks

A steady predicate over a steady predicate asks for a streak of streaks.  With one pause for both it
is the steady predicate that asks for as many successes as both together: between two evaluations of
the predicate inside there is one pause, whether they belong to one inner streak or to two, and none
follows the last.  Only the events tell the two apart.
-/

namespace ClusterReady

variable {σ : Type}

/-! ## Steps that follow a success -/

namespace Step

theorem onSuccess_assoc (a b c : Step σ Verdict) :
    (a.onSuccess b).onSuccess c = a.onSuccess (b.onSuccess c) := by
  unfold onSuccess
  rw [bind_assoc]
  congr 1
  funext verdict
  cases verdict with
  | error failure => rfl
  | ok _ => rfl

theorem onSuccess_note (e : Event) (b c : Step σ Verdict) :
    (note e >>= fun _ => b).onSuccess c = note e >>= fun _ => b.onSuccess c :=
  bind_assoc _ _ _

theorem onSuccess_pause (token : Token) (pause : Duration) (b c : Step σ Verdict) :
    (afterPause token pause b).onSuccess c = afterPause token pause (b.onSuccess c) := by
  unfold afterPause
  rw [onSuccess, bind_assoc]
  congr 1
  funext present
  rw [bind_assoc]
  congr 1
  funext woken
  cases woken with
  | cancelled => rfl
  | onTime => rfl

namespace Alike

variable {R : σ → σ → Prop}

theorem onSuccess {a a' b b' : Step σ Verdict} (ha : Alike R Eq a a') (hb : Alike R Eq b b') :
    Alike R Eq (a.onSuccess b) (a'.onSuccess b') := by
  refine ha.after fun verdict => ?_
  cases verdict with
  | error failure => exact .pure rfl
  | ok _ => exact hb

theorem afterPause {b b' : Step σ Verdict} (token : Token) (pause : Duration)
    (hb : Alike R Eq b b') :
    Alike R Eq (Step.afterPause token pause b) (Step.afterPause token pause b') := by
  refine now.after fun present => ?_
  refine (doze token _).after fun woken => ?_
  cases woken with
  | cancelled => exact .pure rfl
  | onTime => exact hb

end Alike

end Step

/-! ## Streaks that follow each other -/

section Streaks

variable {R : σ → σ → Prop} {p : Predicate σ} {c d : ConsistencyConfig} {token : Token}

/-- A streak of `k + 1` successes and then what is left of one that lacks `j` others is a streak of
as many successes as both. -/
theorem streak_add (hp : p.Blind R) (hdelay : c.delay = d.delay) {rest : Step σ Verdict} {j : Nat}
    (hrest : Step.Alike R Eq rest (streakRest p d token j)) (k : Nat) :
    Step.Alike R Eq ((streak p c token (k + 1)).onSuccess rest)
      (streak p d token (k + 1 + j)) := by
  induction k with
  | zero =>
      have hflat : 0 + 1 + j = j + 1 := Nat.add_comm _ _
      rw [hflat, streak_succ, streak_succ, Step.onSuccess_assoc, Step.onSuccess_note]
      exact (hp token).onSuccess ((Step.Alike.note _ _).after fun _ => hrest)
  | succ k ih =>
      have hflat : k + 1 + 1 + j = (k + 1 + j) + 1 := by omega
      rw [hflat, streak_succ, streak_succ, Step.onSuccess_assoc, Step.onSuccess_note]
      refine (hp token).onSuccess ((Step.Alike.note _ _).after fun _ => ?_)
      have hmore : k + 1 + j ≠ 0 := by omega
      rw [streakRest, if_neg (Nat.succ_ne_zero k), streakRest, if_neg hmore,
        Step.onSuccess_pause, hdelay]
      exact ih.afterPause token d.delay

/-- A streak of `n` streaks does what a streak does of so many successes together. -/
theorem streak_nested (hp : p.Blind R) {outer : ConsistencyConfig} (hdelay : c.delay = d.delay)
    (houter : outer.delay = d.delay) (n : Nat) :
    Step.Alike R Eq (streak (p.consistently c) outer token n)
      (streak p d token (c.required * n)) := by
  induction n with
  | zero => exact .pure rfl
  | succ n ih =>
      have hrest : Step.Alike R Eq (streakRest (p.consistently c) outer token n)
          (streakRest p d token (c.required * n)) := by
        by_cases hn : n = 0
        · subst hn
          exact .pure rfl
        · have hmore : c.required * n ≠ 0 := Nat.mul_ne_zero (Nat.ne_of_gt c.required_pos) hn
          rw [streakRest, if_neg hn, streakRest, if_neg hmore, houter]
          exact ih.afterPause token d.delay
      obtain ⟨m, hm⟩ := Nat.exists_eq_add_one.mpr c.required_pos
      have hflat : c.required * (n + 1) = m + 1 + c.required * n := by
        rw [Nat.mul_add, Nat.mul_one, Nat.add_comm, ← hm]
      have hcheck : (p.consistently c).check token = streak p c token (m + 1) := by
        rw [← hm]
        rfl
      rw [streak_succ, hflat, hcheck]
      exact streak_add hp hdelay (hrest.note_left _) m

end Streaks

/-- As many successes as `outer` streaks of `c` ask for. -/
def ConsistencyConfig.times (c outer : ConsistencyConfig) : ConsistencyConfig where
  required := c.required * outer.required
  delay := c.delay
  required_pos := Nat.mul_pos c.required_pos outer.required_pos

/-- A streak of streaks with one pause does what one streak does. -/
theorem nested_alike {R : σ → σ → Prop} {p : Predicate σ} (hp : p.Blind R)
    {c outer : ConsistencyConfig} (hdelay : outer.delay = c.delay) (token : Token) :
    Step.Alike R Eq (((p.consistently c).consistently outer).check token)
      ((p.consistently (c.times outer)).check token) :=
  streak_nested (c := c) (d := c.times outer) hp rfl hdelay outer.required

theorem Predicate.Blind.consistently {R : σ → σ → Prop} {p : Predicate σ} (hp : p.Blind R)
    (c : ConsistencyConfig) : (p.consistently c).Blind R := by
  intro token
  change Step.Alike R Eq (streak p c token c.required) (streak p c token c.required)
  induction c.required with
  | zero => exact .pure rfl
  | succ left ih =>
      rw [streak_succ]
      refine (hp token).onSuccess ((Step.Alike.note _ _).after fun _ => ?_)
      by_cases hleft : left = 0
      · rw [streakRest, if_pos hleft]
        exact .pure rfl
      · rw [streakRest, if_neg hleft]
        exact ih.afterPause token c.delay

/-! ## The evaluations of the predicate inside -/

/-- The evaluations of `p` in one evaluation of the streak of streaks that begins in `s`. -/
def nestedCalls (p : Predicate σ) (c outer : ConsistencyConfig) (token : Token) (s : Session σ) :
    List (Evaluation σ) :=
  (streakCalls (p.consistently c) outer token outer.required s).flatMap fun tick =>
    streakCalls p c token c.required tick.before

/-- The evaluations that a streak of streaks makes are those of `nestedCalls`. -/
theorem nested_recorded (p : Predicate σ) (c outer : ConsistencyConfig) (token : Token)
    (s : Session σ) :
    Writes (((p.recorded.consistently c).consistently outer).check token)
      (((p.consistently c).consistently outer).check token) (nestedCalls p c outer token s) s :=
  Writes.streak_of rfl (Writes.streak p c token c.required) outer outer.required s

theorem nestedCalls_alike {p : Predicate σ} (hp : p.Blind Eq) {c outer : ConsistencyConfig}
    (hdelay : outer.delay = c.delay) (token : Token) (s : Session σ) :
    List.Forall₂ Evaluation.Alike (nestedCalls p c outer token s)
      (streakCalls p (c.times outer) token (c.times outer).required s) := by
  -- the two diaries are alike because the recorded predicate is blind as well
  obtain ⟨-, hfinal⟩ := nested_alike hp.recorded hdelay token (s.opened []) (s.opened [])
    ⟨rfl, ⟨rfl, .nil⟩, rfl, rfl⟩
  have hentries := hfinal.outside.entries
  rw [(nested_recorded p c outer token s []).2] at hentries
  have hflat := Writes.streak p (c.times outer) token (c.times outer).required s []
  change List.Forall₂ _ _ ((streak p.recorded (c.times outer) token _).final
    (s.opened [])).world.outside.entries at hentries
  rw [hflat.2] at hentries
  exact hentries

theorem Evaluation.map_eq_of_alike {α : Type} {f : Evaluation σ → α}
    (hf : ∀ e d : Evaluation σ, e.Alike d → f e = f d) {calls others : List (Evaluation σ)}
    (h : List.Forall₂ Evaluation.Alike calls others) : calls.map f = others.map f := by
  induction h with
  | nil => rfl
  | cons halike _ ih => rw [List.map_cons, List.map_cons, hf _ _ halike, ih]

/-- The streak of streaks that begins in `s` and the one streak cannot be told apart, but for their
events: they make the same evaluations of the predicate inside at the same instants, and give the
same verdict at the same instant. -/
structure SameStreak (p : Predicate σ) (c outer : ConsistencyConfig) (token : Token)
    (s : Session σ) : Prop where
  recorded :
    Writes (((p.recorded.consistently c).consistently outer).check token)
        (((p.consistently c).consistently outer).check token) (nestedCalls p c outer token s) s ∧
      Writes ((p.recorded.consistently (c.times outer)).check token)
        ((p.consistently (c.times outer)).check token)
        (streakCalls p (c.times outer) token (c.times outer).required s) s
  number : (nestedCalls p c outer token s).length =
    (streakCalls p (c.times outer) token (c.times outer).required s).length
  starts : (nestedCalls p c outer token s).map Evaluation.start =
    (streakCalls p (c.times outer) token (c.times outer).required s).map Evaluation.start
  calls : List.Forall₂ Evaluation.Alike (nestedCalls p c outer token s)
    (streakCalls p (c.times outer) token (c.times outer).required s)
  verdict : (((p.consistently c).consistently outer).check token).value s =
    ((p.consistently (c.times outer)).check token).value s
  finish : ((((p.consistently c).consistently outer).check token).final s).now =
    (((p.consistently (c.times outer)).check token).final s).now
  after : ((((p.consistently c).consistently outer).check token).final s).Alike Eq
    (((p.consistently (c.times outer)).check token).final s)

/-- Streaks of streaks multiply, for every predicate that does not look at the events of the run;
and such are the predicates that look something up, and whatever is made of them by sheltering and
by streaks.  A poll that waits for either gives the same result, but for the description. -/
theorem Predicate.nested_consistently (σ : Type) :
    (∀ (server : Server σ) (p : Predicate σ) (read : Option Request),
      Lookup server p read → p.Blind Eq) ∧
    ∀ p : Predicate σ, p.Blind Eq →
      (∀ describe, (p.sheltered describe).Blind Eq) ∧ (∀ c, (p.consistently c).Blind Eq) ∧
      ∀ c outer : ConsistencyConfig, outer.delay = c.delay →
        (∀ (token : Token) (s : Session σ), SameStreak p c outer token s) ∧
        ∀ (config : PollConfig) (s : Session σ),
          (pollUntil (p.consistently (c.times outer)) config).value s =
              ((pollUntil ((p.consistently c).consistently outer) config).value s).mapError
                (·.describedAs (p.consistently (c.times outer)).describe) ∧
            ((pollUntil ((p.consistently c).consistently outer) config).final s).Alike Eq
              ((pollUntil (p.consistently (c.times outer)) config).final s) := by
  refine ⟨fun server p read h => h.blind, fun p hp => ?_⟩
  refine ⟨hp.sheltered, hp.consistently, fun c outer hdelay => ⟨fun token s => ?_, ?_⟩⟩
  · obtain ⟨hverdict, hafter⟩ := nested_alike hp hdelay token s s (.refl s)
    have hcalls := nestedCalls_alike hp hdelay token s
    have hstarts := Evaluation.map_eq_of_alike (fun _ _ h => h.before.now_eq) hcalls
    exact ⟨⟨nested_recorded p c outer token s, Writes.streak p _ token _ s⟩,
      hcalls.length_eq, hstarts, hcalls, hverdict, hafter.now_eq, hafter⟩
  · intro config s
    exact pollUntil_alike (nested_alike hp hdelay .run) config s s (.refl s)

/-- A predicate that holds and takes half a second. -/
def steadfast : Predicate Scene := .scripted "steadfast" 0 [⟨500000000, false, .ok ()⟩]

/-- Three successes, three seconds apart. -/
def thriceSteady : ConsistencyConfig :=
  { ConsistencyConfig.standard with delay := twiceSteady.delay }

/-- A rehearsal that is cancelled after twelve seconds. -/
def rehearsalCutShort : Session Scene :=
  rehearsal.withClock { cancelAt := some (Duration.ofSecs 12).nanos }

/-- Three streaks of two and one of six are interrupted alike, in the pause after the fourth
evaluation. -/
theorem steadfast_nested :
    steadfast.Blind Eq ∧ thriceSteady.delay = twiceSteady.delay ∧
      SameStreak steadfast twiceSteady thriceSteady .run rehearsalCutShort ∧
      (nestedCalls steadfast twiceSteady thriceSteady .run rehearsalCutShort).map
        Evaluation.start = [0, 3500000000, 7000000000, 10500000000] ∧
      ((steadfast.consistently (twiceSteady.times thriceSteady)).check .run).value
        rehearsalCutShort = .error .interrupted := by
  have hblind : steadfast.Blind Eq := Predicate.scripted_blind _ _ _
  obtain ⟨-, hnested⟩ := Predicate.nested_consistently Scene
  obtain ⟨hsame, -⟩ := (hnested steadfast hblind).2.2 twiceSteady thriceSteady rfl
  refine ⟨hblind, rfl, hsame .run rehearsalCutShort, ?_, ?_⟩
  · decide +kernel
  · decide +kernel

end ClusterReady

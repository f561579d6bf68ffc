import ClusterReady.Proofs.CheckRun
import ClusterReady.Proofs.PollSchedule

/-!
# The earliest stable window

A poll for several successes in a row makes its evaluations in ticks, and a failure ends a tick.
Seen as one sequence, the evaluations of a poll that succeeds end with the earliest block of so
many successes, and a poll that times out has seen no such block.  The reason is that every tick
but the last ends with its only failure: no block reaches over the end of a tick, and none that
begins in a tick is given up before it is complete.
-/

namespace ClusterReady

variable {σ : Type}

def Evaluation.failed (e : Evaluation σ) : Bool := !e.verdict.isOk

theorem Evaluation.failed_of_error
    {e : Evaluation σ} {failure : CheckFailure} (hv : e.verdict = .error failure) :
    e.failed = true := by
  rw [failed, hv]
  rfl

theorem Evaluation.not_failed_of_ok
    {e : Evaluation σ} (hv : e.verdict = .ok ()) : e.failed = false := by
  rw [failed, hv]
  rfl

/-- The evaluations from place `k` on hold `required` times in a row. -/
def Window (required : Nat) (calls : List (Evaluation σ)) (k : Nat) : Prop :=
  k + required ≤ calls.length ∧
    ∀ (i : Nat) (e : Evaluation σ), k ≤ i → i < k + required → calls[i]? = some e →
      e.verdict = .ok ()

/-- Fewer than `required` evaluations after each one there is a failure, or it is one itself. -/
def Unsteady (required : Nat) (calls : List (Evaluation σ)) : Prop :=
  ∀ k < calls.length, ∃ i e, k ≤ i ∧ i < k + required ∧ calls[i]? = some e ∧ e.failed = true

namespace Unsteady

variable {required : Nat} {calls more : List (Evaluation σ)}

theorem nil : Unsteady required ([] : List (Evaluation σ)) := by
  intro k hk
  cases hk

theorem append (h : Unsteady required calls) (hmore : Unsteady required more) :
    Unsteady required (calls ++ more) := by
  intro k hk
  by_cases hfirst : k < calls.length
  · obtain ⟨i, e, hki, hik, he, hfailed⟩ := h k hfirst
    obtain ⟨hi, -⟩ := List.getElem?_eq_some_iff.mp he
    refine ⟨i, e, hki, hik, ?_, hfailed⟩
    rw [List.getElem?_append_left hi, he]
  · have hlate : calls.length ≤ k := Nat.le_of_not_lt hfirst
    have hplace : k - calls.length < more.length := by
      rw [List.length_append] at hk
      omega
    obtain ⟨i, e, hki, hik, he, hfailed⟩ := hmore (k - calls.length) hplace
    refine ⟨calls.length + i, e, by omega, by omega, ?_, hfailed⟩
    rw [List.getElem?_append_right (Nat.le_add_right _ _), Nat.add_sub_cancel_left, he]

theorem of_broken {e : Evaluation σ} (hfew : calls.length < required) (he : e.failed = true) :
    Unsteady required (calls ++ [e]) := by
  intro k hk
  rw [List.length_append, List.length_singleton] at hk
  refine ⟨calls.length, e, by omega, by omega, ?_, he⟩
  exact List.getElem?_concat_length

theorem length_le (h : Unsteady required calls) {k : Nat}
    (hk : Window required (calls ++ more) k) : calls.length ≤ k := by
  by_contra hlate
  obtain ⟨i, e, hki, hik, he, hfailed⟩ := h k (Nat.lt_of_not_le hlate)
  obtain ⟨hi, -⟩ := List.getElem?_eq_some_iff.mp he
  have hsame : (calls ++ more)[i]? = some e := by
    rw [List.getElem?_append_left hi, he]
  have hholds := hk.2 i e hki hik hsame
  rw [Evaluation.not_failed_of_ok hholds] at hfailed
  cases hfailed

theorem not_window (h : Unsteady required calls) (hpos : 0 < required) (k : Nat) :
    ¬Window required calls k := by
  intro hk
  have hbound := hk.1
  rw [← List.append_nil calls] at hk
  have hlate := h.length_le hk
  omega

end Unsteady

theorem window_append
    {required : Nat} {calls held : List (Evaluation σ)} (hlength : held.length = required)
    (hheld : ∀ e ∈ held, e.verdict = .ok ()) : Window required (calls ++ held) calls.length := by
  constructor
  · rw [List.length_append, hlength]
  · intro i e hi hik he
    rw [List.getElem?_append_right hi] at he
    exact hheld e (List.mem_of_getElem? he)

/-! ## Ticks -/

/-- The evaluations of a tick that a failure has broken: only the last one fails. -/
def BrokenStreak (required : Nat) (calls : List (Evaluation σ)) (failure : CheckFailure) : Prop :=
  ∃ held e, calls = held ++ [e] ∧ held.length < required ∧ (∀ d ∈ held, d.verdict = .ok ()) ∧
    e.verdict = .error failure

namespace BrokenStreak

variable {required : Nat} {calls : List (Evaluation σ)} {failure : CheckFailure}

theorem unsteady (h : BrokenStreak required calls failure) : Unsteady required calls := by
  obtain ⟨held, e, rfl, hfew, -, hv⟩ := h
  exact Unsteady.of_broken hfew (Evaluation.failed_of_error hv)

theorem countP_failed (h : BrokenStreak required calls failure) :
    calls.countP Evaluation.failed = 1 := by
  obtain ⟨held, e, rfl, -, hheld, hv⟩ := h
  have hnone : held.countP Evaluation.failed = 0 := by
    rw [List.countP_eq_zero]
    intro d hd
    rw [Evaluation.not_failed_of_ok (hheld d hd)]
    exact Bool.false_ne_true
  rw [List.countP_append, hnone, List.countP_singleton, Evaluation.failed_of_error hv]
  rfl

theorem last (h : BrokenStreak required calls failure) :
    ∃ e, calls.getLast? = some e ∧ e.verdict = .error failure := by
  obtain ⟨held, e, rfl, -, -, hv⟩ := h
  exact ⟨e, List.getLast?_concat, hv⟩

end BrokenStreak

theorem StreakRun.broken_of_error
    {p : Predicate σ} {c : ConsistencyConfig} {left : Nat} {s t : Session σ}
    {calls : List (Evaluation σ)} {verdict : Verdict} {failure : CheckFailure}
    (h : StreakRun p c .run left s calls verdict t) (hverdict : verdict = .error failure)
    (hfree : t.cancelled = false) : BrokenStreak left calls failure := by
  induction h with
  | none => cases hverdict
  | complete _ => cases hverdict
  | broken hv =>
      cases hverdict
      exact ⟨[], _, rfl, Nat.succ_pos _, by simp, hv⟩
  | interrupted _ _ _ hdoze =>
      have hcancelled := Clock.cancelled_doze_iff.mpr hdoze
      exact absurd (hfree.symm.trans hcancelled) Bool.false_ne_true
  | next _ hv _ _ _ ih =>
      obtain ⟨held, e, rfl, hfew, hheld, hlast⟩ := ih hverdict hfree
      refine ⟨_ :: held, e, rfl, Nat.succ_lt_succ hfew, ?_, hlast⟩
      exact List.forall_mem_cons.mpr ⟨hv, hheld⟩

/-- A tick that fails in a run that is not cancelled by then is a broken streak. -/
theorem brokenStreak_of_error
    {p : Predicate σ} {c : ConsistencyConfig} {tick : Evaluation σ} {failure : CheckFailure}
    (htick : tick = (p.consistently c).evaluation .run tick.before)
    (hv : tick.verdict = .error failure) (hfree : tick.after.cancelled = false) :
    BrokenStreak c.required (tickCalls p c tick.before) failure := by
  have hstreak := streak_run p c .run c.required tick.before
  rw [htick] at hv hfree
  exact hstreak.broken_of_error hv hfree

theorem unsteady_of_broken
    {p : Predicate σ} {c : ConsistencyConfig} {ticks : List (Evaluation σ)}
    (h : ∀ tick ∈ ticks, ∃ failure, BrokenStreak c.required (tickCalls p c tick.before) failure) :
    Unsteady c.required (ticks.flatMap fun tick => tickCalls p c tick.before) ∧
      (ticks.flatMap fun tick => tickCalls p c tick.before).countP Evaluation.failed =
        ticks.length := by
  induction ticks with
  | nil => exact ⟨Unsteady.nil, rfl⟩
  | cons tick rest ih =>
      obtain ⟨⟨failure, hfirst⟩, hrest⟩ := List.forall_mem_cons.mp h
      obtain ⟨hunsteady, hcount⟩ := ih hrest
      rw [List.flatMap_cons]
      refine ⟨hfirst.unsteady.append hunsteady, ?_⟩
      rw [List.countP_append, hfirst.countP_failed, hcount, List.length_cons, Nat.add_comm]

/-! ## The poll -/

/-- The evaluations of `p` that a poll for several successes in a row makes from `s`. -/
def steadyCalls (p : Predicate σ) (c : ConsistencyConfig) (config : PollConfig) (s : Session σ) :
    List (Evaluation σ) :=
  (pollCalls (p.consistently c) config s).flatMap fun tick => tickCalls p c tick.before

theorem PollRun.broken_before_last
    {p : Predicate σ} {c : ConsistencyConfig} {config : PollConfig} {start attempts : Nat}
    {last : Option CheckFailure} {s t : Session σ} {earlier : List (Evaluation σ)}
    {tick : Evaluation σ} {result : PollResult}
    (h : PollRun (p.consistently c) config start attempts last s (earlier ++ [tick]) result t) :
    ∀ d ∈ earlier, ∃ failure, BrokenStreak c.required (tickCalls p c d.before) failure := by
  intro d hd
  obtain ⟨⟨failure, hv⟩, hfree⟩ := h.failed_before_last d hd
  have htick := (h.of_mem d (List.mem_append_left _ hd)).1
  exact ⟨failure, brokenStreak_of_error htick hv hfree⟩

/-- What a poll for `required` successes in a row has seen when it gives an answer.  One that
succeeds has just completed the earliest window; one that times out has seen none, and the failure
that it tells of is the last. -/
structure StableWindow (required : Nat) (calls : List (Evaluation σ)) (result : PollResult) :
    Prop where
  found : ∀ summary, result = .ok summary →
    ∃ k, Window required calls k ∧ (∀ j, Window required calls j → k ≤ j) ∧
      calls.length = k + required ∧
      summary.attempts = 1 + (calls.take k).countP Evaluation.failed
  missed : ∀ shown attempts elapsed last,
    result = .error (.timedOut shown attempts elapsed last) →
    (∀ k, ¬Window required calls k) ∧
      (∃ e, calls.getLast? = some e ∧ e.verdict = .error last) ∧
      attempts = calls.countP Evaluation.failed

/-- The last tick decides: it completes the earliest window, or breaks like those before it. -/
theorem StableWindow.of_lastTick
    {p : Predicate σ} {c : ConsistencyConfig} {config : PollConfig} {s t : Session σ}
    {start : Nat} {last : Option CheckFailure}
    {earlier : List (Evaluation σ)} {tick : Evaluation σ} {result : PollResult}
    (h : PollRun (p.consistently c) config start 0 last s (earlier ++ [tick]) result t) :
    StableWindow c.required
      ((earlier ++ [tick]).flatMap fun tick => tickCalls p c tick.before) result := by
  obtain ⟨hunsteady, hcount⟩ := unsteady_of_broken h.broken_before_last
  have hcall := h.lastCall List.getLast?_concat
  have htick := (h.of_mem tick (List.mem_append_right _ List.mem_cons_self)).1
  have hattempts : 0 + (earlier ++ [tick]).length = earlier.length + 1 := by
    rw [List.length_append, List.length_singleton, Nat.zero_add]
  rw [hattempts] at hcall
  rw [List.flatMap_append, List.flatMap_singleton]
  constructor
  · intro summary hok
    obtain ⟨hv, rfl⟩ := (hcall.ok_iff summary).mp hok
    have hsteady := Check.steadyTick_of_ok htick hv
    refine ⟨_, window_append hsteady.complete hsteady.all_hold,
      fun j hj => hunsteady.length_le hj, ?_, ?_⟩
    · rw [List.length_append, hsteady.complete]
    · rw [List.take_left, hcount, Nat.add_comm]
  · intro shown attempts elapsed failure htimeout
    obtain ⟨⟨hv, hfree, -⟩, -, rfl, -⟩ := (hcall.timedOut_iff _ _ _ _).mp htimeout
    have hbroken := brokenStreak_of_error htick hv hfree
    obtain ⟨e, he, hve⟩ := hbroken.last
    refine ⟨(hunsteady.append hbroken.unsteady).not_window c.required_pos, ⟨e, ?_, hve⟩, ?_⟩
    · rw [List.getLast?_append, he]
      rfl
    · rw [List.countP_append, hcount, hbroken.countP_failed]

/-- A poll for several successes in a row answers by the earliest window among its evaluations,
whatever the predicate does, and in a run that is not cancelled it succeeds or times out. -/
theorem pollUntilConsistent_window
    (p : Predicate σ) (c : ConsistencyConfig) (config : PollConfig) (s : Session σ) :
    Writes (pollUntilConsistent p.recorded c config) (pollUntilConsistent p c config)
        (steadyCalls p c config s) s ∧
      StableWindow c.required (steadyCalls p c config s)
        ((pollUntilConsistent p c config).value s) ∧
      (((pollUntilConsistent p c config).final s).cancelled = false →
        (∃ summary, (pollUntilConsistent p c config).value s = .ok summary) ∨
          ∃ shown attempts elapsed last, (pollUntilConsistent p c config).value s =
            .error (.timedOut shown attempts elapsed last)) := by
  have hrun := pollUntil_run (p.consistently c) config s
  refine ⟨pollUntilConsistent_recorded p c config s, ?_, ?_⟩
  · cases hlast : (pollCalls (p.consistently c) config s).getLast? with
    | none =>
        -- nothing is evaluated when the run is cancelled from the start, and the answer says so
        have hcancelled := hrun.eq_nil_iff.mp (List.getLast?_eq_none_iff.mp hlast)
        have hresult := (hrun.of_nil hcancelled).1
        constructor
        · intro summary hok
          cases hresult.symm.trans hok
        · intro shown attempts elapsed failure htimeout
          cases hresult.symm.trans htimeout
    | some tick =>
        obtain ⟨earlier, hsplit⟩ := List.getLast?_eq_some_iff.mp hlast
        rw [steadyCalls, hsplit]
        rw [hsplit] at hrun
        exact StableWindow.of_lastTick hrun
  · intro hfree
    rcases hrun.answer with hok | htimeout | ⟨_, _, _, -, hcancelled⟩
    · exact Or.inl hok
    · exact Or.inr htimeout
    · exact absurd (hfree.symm.trans hcancelled) Bool.false_ne_true

/-- A predicate that fails once after its first success and then holds for good. -/
def settling : Predicate Scene :=
  .scripted "settling" 0
    [⟨500000000, false, .ok ()⟩, ⟨0, false, .error (.unsatisfied "down")⟩, ⟨0, false, .ok ()⟩]

/-- The poll for two successes succeeds as soon as this predicate has settled; while one flaps it
finds no window, and times out. -/
theorem settling_window :
    (∃ summary, (pollUntilConsistent settling twiceSteady tenSeconds).value rehearsal =
        .ok summary ∧
      ∃ k, Window 2 (steadyCalls settling twiceSteady tenSeconds rehearsal) k ∧
        (∀ j, Window 2 (steadyCalls settling twiceSteady tenSeconds rehearsal) j → k ≤ j) ∧
        (steadyCalls settling twiceSteady tenSeconds rehearsal).length = k + 2 ∧
        summary.attempts = 1 +
          ((steadyCalls settling twiceSteady tenSeconds rehearsal).take k).countP
            Evaluation.failed) ∧
      ((pollUntilConsistent flapping twiceSteady tenSeconds).final rehearsal).cancelled = false ∧
      ∃ shown attempts elapsed last,
        (pollUntilConsistent flapping twiceSteady tenSeconds).value rehearsal =
          .error (.timedOut shown attempts elapsed last) ∧
        (∀ k, ¬Window 2 (steadyCalls flapping twiceSteady tenSeconds rehearsal) k) ∧
        attempts = (steadyCalls flapping twiceSteady tenSeconds rehearsal).countP
          Evaluation.failed := by
  obtain ⟨-, hsettled, -⟩ := pollUntilConsistent_window settling twiceSteady tenSeconds rehearsal
  obtain ⟨-, hflapped, hanswer⟩ :=
    pollUntilConsistent_window flapping twiceSteady tenSeconds rehearsal
  have hok : ((pollUntilConsistent settling twiceSteady tenSeconds).value rehearsal).isOk =
      true := by
    decide +kernel
  have hfree : ((pollUntilConsistent flapping twiceSteady tenSeconds).final rehearsal).cancelled =
      false := by
    decide +kernel
  have herror : ((pollUntilConsistent flapping twiceSteady tenSeconds).value rehearsal).isOk =
      false := by
    decide +kernel
  refine ⟨?_, hfree, ?_⟩
  · cases hvalue : (pollUntilConsistent settling twiceSteady tenSeconds).value rehearsal with
    | error e =>
        rw [hvalue] at hok
        cases hok
    | ok summary => exact ⟨summary, rfl, hsettled.found summary hvalue⟩
  · rcases hanswer hfree with ⟨summary, hvalue⟩ | ⟨shown, attempts, elapsed, last, hvalue⟩
    · rw [hvalue] at herror
      cases herror
    · obtain ⟨hnone, -, hattempts⟩ := hflapped.missed _ _ _ _ hvalue
      exact ⟨shown, attempts, elapsed, last, hvalue, hnone, hattempts⟩

end ClusterReady

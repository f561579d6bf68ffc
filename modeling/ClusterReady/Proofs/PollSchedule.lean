import ClusterReady.Proofs.PollEnd
import ClusterReady.Rehearsal

/-!
# When a poll evaluates

In a run that is not cancelled the instants of the evaluations obey a recurrence: after a failure
before the deadline the next evaluation starts an interval after the start of the one that failed,
or at the deadline when that is sooner, or at once when both are past.  The deadline is fixed by
the start of the poll, and nothing that a predicate does moves it.
-/

namespace ClusterReady

variable {σ : Type}

/-- The schedule of evaluations that a poll with this timing keeps when it starts at `began`.  The
`next` evaluation after a failure before the deadline starts when the sleep is over, and a success,
or a failure at the deadline or after it, is followed by none. -/
structure PollSchedule (config : PollConfig) (began : Nat) (calls : List (Evaluation σ)) :
    Prop where
  first : ∃ e, calls[0]? = some e ∧ e.start = began
  next : ∀ (k : Nat) (e : Evaluation σ) (failure : CheckFailure), calls[k]? = some e →
    e.verdict = .error failure → e.finish < began + config.timeout.nanos →
    ∃ d, calls[k + 1]? = some d ∧
      d.start = max e.finish
        (min (e.start + config.interval.nanos) (began + config.timeout.nanos))
  ended : ∀ (k : Nat) (e : Evaluation σ), calls[k]? = some e →
    e.verdict = .ok () ∨ began + config.timeout.nanos ≤ e.finish → calls[k + 1]? = none
  apart : ∀ (k : Nat) (e d : Evaluation σ), calls[k]? = some e → calls[k + 1]? = some d →
    e.finish ≤ d.start
  in_time : ∀ e ∈ calls, e.start ≤ began + config.timeout.nanos
  spaced : ∀ (k : Nat) (e d : Evaluation σ), calls[k]? = some e → calls[k + 1]? = some d →
    e.start + config.interval.nanos ≤ d.start ∨ d.start = began + config.timeout.nanos

theorem pollCalls_schedule {p : Predicate σ} {config : PollConfig} {s : Session σ}
    (hfree : ((pollUntil p config).final s).cancelled = false) :
    PollSchedule config s.now (pollCalls p config s) := by
  have hrun := pollUntil_run p config s
  have hbegun : s.cancelled = false :=
    Clock.not_cancelled_of_le ((pollUntil p config).le_final s).1 hfree
  constructor
  · obtain ⟨e, rest, hcalls, hbefore⟩ := hrun.exists_cons hbegun
    refine ⟨e, by rw [hcalls]; rfl, ?_⟩
    rw [Evaluation.start, hbefore]
    rfl
  · intro k e failure he hv hdue
    rcases getLast_or_next he with hlast | ⟨d, hd⟩
    · -- a poll that ends with a failure before the deadline has been cancelled in its sleep
      have hafter := Clock.not_cancelled_of_le
        (hrun.after_le e (List.mem_of_getElem? he)).1 hfree
      obtain ⟨c, hc, -, -, hnow⟩ := (hrun.lastCall hlast).asleep failure hv hafter hdue
      have hcancel := Clock.cancelled_iff.mpr ⟨c, hc, Nat.le_of_eq hnow.symm⟩
      exact absurd (hfree.symm.trans hcancel) Bool.false_ne_true
    · exact ⟨d, hd, (hrun.step_spec he hd).2.2.2⟩
  · intro k e he hover
    cases hd : (pollCalls p config s)[k + 1]? with
    | none => rfl
    | some d =>
        obtain ⟨⟨failure, hv⟩, -, hdue, -⟩ := hrun.step_spec he hd
        rcases hover with hok | hle
        · rw [hv] at hok
          cases hok
        · exact absurd hle (Nat.not_le.mpr hdue)
  · intro k e d he hd
    rw [(hrun.step_spec he hd).2.2.2]
    exact Nat.le_max_left _ _
  · exact hrun.start_le_deadline (Nat.le_add_right _ _)
  · intro k e d he hd
    obtain ⟨-, -, hdue, hstart⟩ := hrun.step_spec he hd
    omega

/-- A poll keeps its schedule unless the run is cancelled, and so does a poll for several successes
in a row: however long its streaks are and wherever they break, they do not move the deadline. -/
theorem pollUntil_schedule (p : Predicate σ) (config : PollConfig) (s : Session σ) :
    (((pollUntil p config).final s).cancelled = false →
      PollSchedule config s.now (pollCalls p config s)) ∧
    ∀ steady : ConsistencyConfig,
      ((pollUntilConsistent p steady config).final s).cancelled = false →
        PollSchedule config s.now (pollCalls (p.consistently steady) config s) :=
  ⟨pollCalls_schedule, fun _ => pollCalls_schedule⟩

/-- A machine on which there is an instant one interval after the deadline has all the instants
that the poll adds up: its deadline, and the end of the interval after each start. -/
theorem pollCalls_inRange (p : Predicate σ) {config : PollConfig} {s : Session σ} {last : Nat}
    (h : s.now + config.timeout.nanos + config.interval.nanos ≤ last) :
    s.now + config.timeout.nanos ≤ last ∧
      ∀ e ∈ pollCalls p config s, e.start + config.interval.nanos ≤ last := by
  refine ⟨by omega, fun e he => ?_⟩
  have hstart := (pollUntil_run p config s).start_le_deadline (Nat.le_add_right _ _) e he
  omega

/-- Ten seconds, with a tick every two. -/
def tenSeconds : PollConfig where
  timeout := .ofSecs 10
  interval := .ofSecs 2
  interval_pos := by decide
  interval_le := by decide

/-- Two successes, three seconds apart. -/
def twiceSteady : ConsistencyConfig where
  required := 2
  delay := .ofSecs 3
  required_pos := by decide

/-- A predicate that holds twice, but never twice in a row. -/
def flapping : Predicate Scene :=
  .scripted "flapping" 0
    [⟨500000000, false, .ok ()⟩, ⟨0, false, .error (.unsatisfied "down")⟩,
      ⟨1000000000, false, .ok ()⟩, ⟨0, false, .error (.unsatisfied "down")⟩]

/-- A session of nothing but rehearsed predicates, which is never cancelled. -/
def rehearsal : Session Scene where
  world := ⟨{}, { server := { fallback := { exchange := .error "no route to host" } } }⟩
  journal := {}

theorem flapping_schedule :
    ((pollUntil flapping tenSeconds).final rehearsal).cancelled = false ∧
      PollSchedule tenSeconds 0 (pollCalls flapping tenSeconds rehearsal) ∧
      ((pollUntilConsistent flapping twiceSteady tenSeconds).final rehearsal).cancelled = false ∧
      PollSchedule tenSeconds 0
        (pollCalls (flapping.consistently twiceSteady) tenSeconds rehearsal) := by
  have hpoll : ((pollUntil flapping tenSeconds).final rehearsal).cancelled = false := by
    decide +kernel
  have hsteady :
      ((pollUntilConsistent flapping twiceSteady tenSeconds).final rehearsal).cancelled =
        false := by
    decide +kernel
  obtain ⟨hfirst, hsecond⟩ := pollUntil_schedule flapping tenSeconds rehearsal
  exact ⟨hpoll, hfirst hpoll, hsteady, hsecond twiceSteady hsteady⟩

end ClusterReady

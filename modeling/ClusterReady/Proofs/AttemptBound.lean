import ClusterReady.Proofs.PollSchedule
import ClusterReady.Proofs.StreakCourse
import Mathlib.Algebra.Order.Floor.Div

/-!
# How many evaluations a poll makes

Two evaluations of a poll start an interval apart at least, unless the later one starts at the
deadline, and none starts after the deadline.  So there is at most one more of them than there are
intervals in the timeout, where a part of an interval counts as a whole one.  Evaluations that take
no time and fail are as many as that.
-/

namespace ClusterReady

variable {σ : Type}

/-- The most evaluations that a poll with this timing makes. -/
def PollConfig.mostAttempts (config : PollConfig) : Nat :=
  config.timeout.nanos ⌈/⌉ config.interval.nanos + 1

theorem PollConfig.timeout_le_ceilDiv (config : PollConfig) :
    config.timeout.nanos ≤
      (config.timeout.nanos ⌈/⌉ config.interval.nanos) * config.interval.nanos := by
  have hcover := le_smul_ceilDiv (b := config.timeout.nanos) config.interval_pos
  rw [smul_eq_mul, Nat.mul_comm] at hcover
  exact hcover

theorem Evaluation.exists_error {e : Evaluation σ} (h : e.failed = true) :
    ∃ failure, e.verdict = .error failure := by
  cases hv : e.verdict with
  | error failure => exact ⟨failure, rfl⟩
  | ok u =>
      rw [Evaluation.not_failed_of_ok hv] at h
      cases h

/-! ## The starts of evaluations -/

namespace PollRun

variable {p : Predicate σ} {config : PollConfig} {start attempts : Nat}
variable {last : Option CheckFailure} {s t : Session σ}
variable {calls : List (Evaluation σ)} {result : PollResult}

theorem le_start (h : PollRun p config start attempts last s calls result t)
    (hs : start ≤ s.now) {k : Nat} {e : Evaluation σ} (he : calls[k]? = some e) :
    min (start + k * config.interval.nanos) (start + config.timeout.nanos) ≤ e.start := by
  induction k generalizing e with
  | zero =>
      rw [Evaluation.start, h.before_of_head he]
      omega
  | succ k ih =>
      obtain ⟨d, hd, -, -, -, hstart⟩ := h.exists_previous he
      have hbefore := ih hd
      have hmore : (k + 1) * config.interval.nanos =
          k * config.interval.nanos + config.interval.nanos := Nat.succ_mul _ _
      omega

theorem length_le (h : PollRun p config start attempts last s calls result t)
    (hs : start ≤ s.now) : calls.length ≤ config.mostAttempts := by
  by_contra hmany
  have hmore : config.timeout.nanos ⌈/⌉ config.interval.nanos + 1 < calls.length :=
    Nat.lt_of_not_le hmany
  have he := List.getElem?_eq_getElem (Nat.lt_of_succ_lt hmore)
  have hd := List.getElem?_eq_getElem hmore
  -- the last evaluation but one starts at the deadline, and then it is not the last but one
  have hlate := h.le_start hs he
  have hcover := config.timeout_le_ceilDiv
  have horder := h.start_le_finish _ (List.mem_of_getElem? he)
  obtain ⟨-, -, hdue, -⟩ := h.step_spec he hd
  omega

end PollRun

/-! ## The bound -/

/-- The evaluations as a word of 32 bits counts them. -/
def countedInWord (calls : List (Evaluation σ)) : UInt32 :=
  calls.foldl (fun n _ => n + 1) 0

theorem toNat_foldl_count {calls : List (Evaluation σ)} {n : UInt32}
    (h : n.toNat + calls.length < UInt32.size) :
    (calls.foldl (fun n _ => n + 1) n).toNat = n.toNat + calls.length := by
  induction calls generalizing n with
  | nil => rfl
  | cons e rest ih =>
      rw [List.length_cons] at h ⊢
      have hnext : (n + 1).toNat = n.toNat + 1 := by
        rw [UInt32.toNat_add]
        apply Nat.mod_eq_of_lt
        change n.toNat + 1 < UInt32.size
        omega
      rw [List.foldl_cons, ih (by omega), hnext]
      omega

theorem toNat_countedInWord {calls : List (Evaluation σ)} (h : calls.length < UInt32.size) :
    (countedInWord calls).toNat = calls.length := by
  have hzero : (0 : UInt32).toNat + calls.length = calls.length := Nat.zero_add _
  rw [← hzero] at h
  exact (toNat_foldl_count h).trans hzero

/-- What bounds the evaluations that a poll made, and its answer.  Unless the poll is cancelled, an
`overrun` of its deadline is no longer than its last evaluation. -/
structure AttemptBound (config : PollConfig) (calls : List (Evaluation σ)) (result : PollResult) :
    Prop where
  answered : (∃ summary, result = .ok summary) ∨
    (∃ shown n elapsed last, result = .error (.timedOut shown n elapsed last)) ∨
    ∃ shown n last, result = .error (.cancelled shown n last)
  most : calls.length ≤ config.mostAttempts
  counted : result.attempts = calls.length
  fits : config.mostAttempts < UInt32.size →
    ∀ k ≤ calls.length, (countedInWord (calls.take k)).toNat = k
  overrun : ∀ shown n elapsed last, result = .error (.timedOut shown n elapsed last) →
    ∃ e, calls.getLast? = some e ∧ config.timeout.nanos ≤ elapsed.nanos ∧
      elapsed.nanos ≤ config.timeout.nanos + e.duration

/-- A poll makes all the evaluations that it can, and times out at its deadline. -/
structure BoundMet (describe : String) (config : PollConfig) (began : Nat)
    (calls : List (Evaluation σ)) (result : PollResult) : Prop where
  number : calls.length = config.mostAttempts
  starts : ∀ (k : Nat) (e : Evaluation σ), calls[k]? = some e →
    e.start = began + min (k * config.interval.nanos) config.timeout.nanos
  timedOut : ∃ last,
    result = .error (.timedOut describe config.mostAttempts config.timeout last)

theorem pollCalls_bound (p : Predicate σ) (config : PollConfig) (s : Session σ) :
    AttemptBound config (pollCalls p config s) ((pollUntil p config).value s) := by
  have hrun := pollUntil_run p config s
  have hmost := hrun.length_le (Nat.le_refl _)
  constructor
  · rcases hrun.answer with hok | htimeout | ⟨shown, n, failure, hcancelled, -⟩
    · exact Or.inl hok
    · exact Or.inr (Or.inl htimeout)
    · exact Or.inr (Or.inr ⟨shown, n, failure, hcancelled⟩)
  · exact hmost
  · have hcount := hrun.attempts_eq
    rw [Nat.zero_add] at hcount
    exact hcount
  · intro hword k hk
    have htake : ((pollCalls p config s).take k).length = k := List.length_take_of_le hk
    rw [toNat_countedInWord (by omega), htake]
  · intro shown n elapsed failure htimeout
    cases hlast : (pollCalls p config s).getLast? with
    | none =>
        have hnone := List.getLast?_eq_none_iff.mp hlast
        have hresult := (hrun.of_nil (hrun.eq_nil_iff.mp hnone)).1
        cases htimeout.symm.trans hresult
    | some e =>
        have hcall := hrun.lastCall hlast
        obtain ⟨⟨-, -, hdue⟩, -, -, rfl⟩ := (hcall.timedOut_iff _ _ _ _).mp htimeout
        have hstart := hrun.start_le_deadline (Nat.le_add_right _ _) e
          (List.mem_of_getLast? hlast)
        refine ⟨e, rfl, ?_, ?_⟩
        · change config.timeout.nanos ≤ e.finish - s.now
          omega
        · change e.finish - s.now ≤ config.timeout.nanos + (e.finish - e.start)
          omega

/-- Evaluations that take no time and fail start an interval after each other, up to the
deadline. -/
theorem start_of_instant {p : Predicate σ} {config : PollConfig} {s : Session σ}
    (hinstant : ∀ e ∈ pollCalls p config s, e.finish = e.start) {k : Nat} {e : Evaluation σ}
    (he : (pollCalls p config s)[k]? = some e) :
    e.start = s.now + min (k * config.interval.nanos) config.timeout.nanos := by
  have hrun := pollUntil_run p config s
  induction k generalizing e with
  | zero =>
      rw [Evaluation.start, hrun.before_of_head he, Nat.zero_mul, Nat.zero_min]
      rfl
  | succ k ih =>
      obtain ⟨d, hd, -, -, hdue, hstart⟩ := hrun.exists_previous he
      have hbefore := ih hd
      have hfinish := hinstant d (List.mem_of_getElem? hd)
      have hmore : (k + 1) * config.interval.nanos =
          k * config.interval.nanos + config.interval.nanos := Nat.succ_mul _ _
      omega

theorem boundMet_of_instant {p : Predicate σ} {config : PollConfig} {s : Session σ}
    (hfree : ((pollUntil p config).final s).cancelled = false)
    (hinstant : ∀ e ∈ pollCalls p config s, e.failed = true ∧ e.finish = e.start) :
    BoundMet p.describe config s.now (pollCalls p config s) ((pollUntil p config).value s) := by
  have hrun := pollUntil_run p config s
  have hschedule := pollCalls_schedule hfree
  have hstarts : ∀ (k : Nat) (e : Evaluation σ), (pollCalls p config s)[k]? = some e →
      e.start = s.now + min (k * config.interval.nanos) config.timeout.nanos := by
    intro k e he
    exact start_of_instant (fun d hd => (hinstant d hd).2) he
  obtain ⟨first, hfirst, -⟩ := hschedule.first
  obtain ⟨hpos, -⟩ := List.getElem?_eq_some_iff.mp hfirst
  have hplace := List.getElem?_eq_getElem (Nat.sub_lt hpos Nat.one_pos)
  generalize he : (pollCalls p config s)[(pollCalls p config s).length - 1] = e at hplace
  obtain ⟨hfailed, hfinish⟩ := hinstant e (List.mem_of_getElem? hplace)
  obtain ⟨failure, hv⟩ := Evaluation.exists_error hfailed
  have hstart := hstarts _ e hplace
  -- the last evaluation starts at the deadline, or there would be another one
  have hdue : s.now + config.timeout.nanos ≤ e.finish := by
    by_contra hearly
    obtain ⟨d, hd, -⟩ := hschedule.next _ e failure hplace hv (Nat.lt_of_not_le hearly)
    obtain ⟨hlt, -⟩ := List.getElem?_eq_some_iff.mp hd
    omega
  have hnumber : (pollCalls p config s).length = config.mostAttempts := by
    apply Nat.le_antisymm
    · exact hrun.length_le (Nat.le_refl _)
    · have hcover : config.timeout.nanos ≤
          config.interval.nanos • ((pollCalls p config s).length - 1) := by
        rw [smul_eq_mul, Nat.mul_comm]
        omega
      have hceil := (ceilDiv_le_iff_le_smul config.interval_pos).mpr hcover
      unfold PollConfig.mostAttempts
      omega
  refine ⟨hnumber, hstarts, failure, ?_⟩
  have hlast : (pollCalls p config s).getLast? = some e := by
    rw [List.getLast?_eq_getElem?]
    exact hplace
  have hafter := Clock.not_cancelled_of_le (hrun.after_le e (List.mem_of_getLast? hlast)).1 hfree
  apply ((hrun.lastCall hlast).timedOut_iff _ _ _ _).mpr
  refine ⟨⟨hv, hafter, hdue⟩, rfl, ?_, ?_⟩
  · rw [Nat.zero_add, hnumber]
  · have helapsed : e.finish - s.now = config.timeout.nanos := by omega
    rw [helapsed]

/-- Whatever its predicate does and whenever the run is cancelled, a poll makes no more evaluations
than there are intervals in its timeout and one more.  It makes as many when they take no time and
fail and the run is not cancelled. -/
theorem pollUntil_attempts (p : Predicate σ) (config : PollConfig) (s : Session σ) :
    Writes (pollUntil p.recorded config) (pollUntil p config) (pollCalls p config s) s ∧
      AttemptBound config (pollCalls p config s) ((pollUntil p config).value s) ∧
      (((pollUntil p config).final s).cancelled = false →
        (∀ e ∈ pollCalls p config s, e.failed = true ∧ e.finish = e.start) →
        BoundMet p.describe config s.now (pollCalls p config s)
          ((pollUntil p config).value s)) :=
  ⟨pollUntil_recorded p config s, pollCalls_bound p config s, boundMet_of_instant⟩

/-- Ten seconds, with a tick every three: the last gap is shorter than the others. -/
def unevenTicks : PollConfig where
  timeout := .ofSecs 10
  interval := .ofSecs 3
  interval_pos := by decide
  interval_le := by decide

/-- A predicate that never holds. -/
def hopeless : Predicate Scene :=
  .scripted "hopeless" 0 [⟨0, false, .error (.unsatisfied "down")⟩]

theorem hopeless_attempts :
    ((pollUntil hopeless unevenTicks).final rehearsal).cancelled = false ∧
      (∀ e ∈ pollCalls hopeless unevenTicks rehearsal, e.failed = true ∧ e.finish = e.start) ∧
      (pollCalls hopeless unevenTicks rehearsal).length = 5 ∧
      (pollUntil hopeless unevenTicks).value rehearsal =
        .error (.timedOut "hopeless" 5 (.ofSecs 10) (.unsatisfied "down")) := by
  have hfree : ((pollUntil hopeless unevenTicks).final rehearsal).cancelled = false := by
    decide +kernel
  have hinstant : ∀ e ∈ pollCalls hopeless unevenTicks rehearsal,
      e.failed = true ∧ e.finish = e.start := by
    decide +kernel
  obtain ⟨-, -, hmet⟩ := pollUntil_attempts hopeless unevenTicks rehearsal
  have hnumber := (hmet hfree hinstant).number
  refine ⟨hfree, hinstant, hnumber.trans (by decide), by decide +kernel⟩

end ClusterReady

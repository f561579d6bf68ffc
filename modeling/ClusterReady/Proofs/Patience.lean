import ClusterReady.Proofs.AttemptBound
import ClusterReady.Proofs.CheckRun

/-!
# Polls with a longer timeout

Two polls with one interval, of a predicate whose evaluations go by their number, make the same
evaluations at the same instants after their starts, until the one that is less patient comes to its
deadline.  There it may evaluate before its interval has passed, and the other one waits for the
rest of the interval.  So a longer timeout does not turn a success into a failure: it comes with the
same evaluation, and less than an interval later.
-/

namespace ClusterReady

variable {σ : Type}

/-! ## Evaluations by their number -/

/-- In every poll from `s` the evaluations take so long and say this, by their number. -/
def Predicate.ByNumber (p : Predicate σ) (durations : Nat → Nat) (verdicts : Nat → Verdict)
    (s : Session σ) : Prop :=
  ∀ (config : PollConfig) (k : Nat) (e : Evaluation σ), (pollCalls p config s)[k]? = some e →
    e.duration = durations k ∧ e.verdict = verdicts k

/-- What lies outside counts the evaluations of the predicate, which go by this count. -/
structure Predicate.Counted (p : Predicate σ) (count : σ → Nat) (durations : Nat → Nat)
    (verdicts : Nat → Verdict) : Prop where
  duration : ∀ s, (p.evaluation .run s).duration = durations (count s.world.outside)
  verdict : ∀ s, (p.evaluation .run s).verdict = verdicts (count s.world.outside)
  count : ∀ s, count (p.evaluation .run s).after.world.outside = count s.world.outside + 1

theorem Tick.Pass.outside_eq
    {p : Predicate σ} {config : PollConfig} {start attempts : Nat}
    {last : Option CheckFailure} {s t : Session σ} {failure : CheckFailure}
    (h : Tick.Pass p config start attempts last s (.again failure) t) :
    t.world.outside = (p.evaluation .run s).after.world.outside := by
  cases h with
  | again _ _ _ _ _ => rfl

theorem PollRun.outside_eq
    {p : Predicate σ} {config : PollConfig} {start attempts : Nat}
    {last : Option CheckFailure} {s t : Session σ} {calls : List (Evaluation σ)}
    {result : PollResult} (h : PollRun p config start attempts last s calls result t)
    {k : Nat} {e d : Evaluation σ} (he : calls[k]? = some e) (hd : calls[k + 1]? = some d) :
    d.before.world.outside = e.after.world.outside := by
  obtain ⟨done, before, failure, hpass⟩ := h.leadsTo he hd
  rw [hpass.outside_eq, ← (h.of_mem e (List.mem_of_getElem? he)).1]

theorem Predicate.Counted.byNumber
    {p : Predicate σ} {count : σ → Nat} {durations : Nat → Nat} {verdicts : Nat → Verdict}
    (h : p.Counted count durations verdicts) (s : Session σ) :
    p.ByNumber (fun k => durations (count s.world.outside + k))
      (fun k => verdicts (count s.world.outside + k)) s := by
  intro config k e he
  have hrun := pollUntil_run p config s
  have hcount : count e.before.world.outside = count s.world.outside + k := by
    induction k generalizing e with
    | zero =>
        rw [hrun.before_of_head he]
        rfl
    | succ k ih =>
        obtain ⟨d, hd, -⟩ := hrun.exists_previous he
        have hbefore := ih d hd
        have hone := h.count d.before
        rw [← (hrun.of_mem d (List.mem_of_getElem? hd)).1] at hone
        rw [hrun.outside_eq hd he, hone, hbefore, Nat.add_assoc]
  rw [(hrun.of_mem e (List.mem_of_getElem? he)).1, h.duration, h.verdict, hcount]
  exact ⟨rfl, rfl⟩

/-- The number of evaluations of the scripted predicate in a scene. -/
def Scene.played (scene : Scene) (slot : Nat) : Nat :=
  (scene.calls.filter (·.1 == slot)).length

theorem Clock.now_cancel (c : Clock) : c.cancel.now = c.now := by
  unfold cancel
  by_cases h : c.cancelled = true
  · rw [if_pos h]
  · rw [if_neg h]

theorem Predicate.scripted_evaluation (describe : String) (slot : Nat) (script : List Cue)
    (s : Session Scene) :
    let e := (Predicate.scripted describe slot script).evaluation .run s
    let cue := Cue.pick script (s.world.outside.played slot)
    e.verdict = cue.verdict ∧ e.finish = s.now + cue.takes ∧
      e.after.world.outside.calls = (slot, s.now) :: s.world.outside.calls := by
  intro e cue
  have hcheck : (Predicate.scripted describe slot script).check .run = do
      let began ← Step.now
      let done ← Step.outside (Run.read fun w => w.outside.played slot)
      Step.outside (Scene.change fun scene => { scene with calls := (slot, began) :: scene.calls })
      Step.elapse (Cue.pick script done).takes
      if (Cue.pick script done).cancels then Step.cancel
      return (Cue.pick script done).verdict := rfl
  have hplayed : (Step.outside (Run.read fun w => w.outside.played slot)).value
      (Step.now.final s) = s.world.outside.played slot := rfl
  simp only [e, Predicate.evaluation, Evaluation.finish, hcheck, Run.value_bind, Run.final_bind,
    hplayed]
  by_cases hcancels : (Cue.pick script (s.world.outside.played slot)).cancels = true
  · simp only [hcancels, if_true]
    refine ⟨rfl, ?_, rfl⟩
    exact Clock.now_cancel _
  · simp only [hcancels]
    exact ⟨rfl, rfl, rfl⟩

/-- A scripted predicate goes by the number of its evaluations in the scene. -/
theorem Predicate.scripted_counted (describe : String) (slot : Nat) (script : List Cue) :
    (Predicate.scripted describe slot script).Counted (·.played slot)
      (fun k => (Cue.pick script k).takes) (fun k => (Cue.pick script k).verdict) := by
  constructor
  · intro s
    obtain ⟨-, hfinish, -⟩ := Predicate.scripted_evaluation describe slot script s
    rw [Evaluation.duration, hfinish]
    exact Nat.add_sub_cancel_left _ _
  · intro s
    exact (Predicate.scripted_evaluation describe slot script s).1
  · intro s
    obtain ⟨-, -, hcalls⟩ := Predicate.scripted_evaluation describe slot script s
    rw [Scene.played, hcalls, List.filter_cons_of_pos (by simp), List.length_cons]
    rfl

/-! ## The same evaluations -/

/-- The evaluation `d` of a poll from `began'` is as far from its start as `e` is in a poll from
`began`, unless `e` is at the deadline: then `d` is less than an interval later. -/
def Evaluation.Shadows (config : PollConfig) (began began' : Nat) (e d : Evaluation σ) : Prop :=
  e.start + began' = d.start + began ∨
    (e.start = began + config.timeout.nanos ∧
      began' + config.timeout.nanos ≤ d.start ∧
      d.start < began' + config.timeout.nanos + config.interval.nanos)

section Patience

variable {p : Predicate σ} {durations : Nat → Nat} {verdicts : Nat → Verdict} {s s' : Session σ}
variable {config longer : PollConfig}
variable (hs : p.ByNumber durations verdicts s) (hs' : p.ByNumber durations verdicts s')
variable (hinterval : longer.interval = config.interval)
variable (htimeout : config.timeout.nanos ≤ longer.timeout.nanos)
variable (hfree' : ((pollUntil p longer).final s').cancelled = false)

include hs hs' hinterval htimeout hfree'

/-- Every evaluation of the poll is in the poll with the longer timeout as well. -/
theorem exists_shadow {k : Nat} {e : Evaluation σ} (he : (pollCalls p config s)[k]? = some e) :
    ∃ d, (pollCalls p longer s')[k]? = some d ∧ e.Shadows config s.now s'.now d := by
  have hrun := pollUntil_run p config s
  have hschedule := pollCalls_schedule hfree'
  induction k generalizing e with
  | zero =>
      obtain ⟨d, hd, hstart⟩ := hschedule.first
      refine ⟨d, hd, Or.inl ?_⟩
      rw [hstart, Evaluation.start, hrun.before_of_head he, Nat.add_comm]
      rfl
  | succ k ih =>
      obtain ⟨earlier, hprevious, ⟨failure, hv⟩, -, hdue, hstart⟩ := hrun.exists_previous he
      obtain ⟨d, hd, hshadow⟩ := ih hprevious
      have horder := hrun.start_le_finish earlier (List.mem_of_getElem? hprevious)
      have horder' := (pollUntil_run p longer s').start_le_finish d (List.mem_of_getElem? hd)
      obtain ⟨hduration, hverdict⟩ := hs config k earlier hprevious
      obtain ⟨hduration', hverdict'⟩ := hs' longer k d hd
      -- an evaluation that is followed by another one is not at the deadline
      have hpace : earlier.start + s'.now = d.start + s.now := by
        rcases hshadow with hsame | ⟨hlate, -, -⟩
        · exact hsame
        · omega
      have hfinish : earlier.finish + s'.now = d.finish + s.now := by
        unfold Evaluation.duration at hduration hduration'
        omega
      have hv' : d.verdict = .error failure := hverdict'.trans (hverdict.symm.trans hv)
      have hdue' : d.finish < s'.now + longer.timeout.nanos := by omega
      obtain ⟨next, hnext, hstart'⟩ := hschedule.next k d failure hd hv' hdue'
      refine ⟨next, hnext, ?_⟩
      unfold Evaluation.Shadows
      rw [hinterval] at hstart'
      by_cases hclamped : s.now + config.timeout.nanos < earlier.start + config.interval.nanos
      · refine Or.inr ⟨?_, ?_, ?_⟩
        · omega
        · omega
        · omega
      · refine Or.inl ?_
        omega

theorem length_le_of_patient :
    (pollCalls p config s).length ≤ (pollCalls p longer s').length := by
  by_contra hfewer
  have he := List.getElem?_eq_getElem (Nat.lt_of_not_le hfewer)
  obtain ⟨d, hd, -⟩ := exists_shadow hs hs' hinterval htimeout hfree' he
  rw [List.getElem?_length] at hd
  cases hd

/-- A success comes with the same evaluation of the poll with the longer timeout, and less than an
interval later. -/
theorem ok_of_ok {n : Nat} {elapsed : Duration}
    (hok : (pollUntil p config).value s = .ok ⟨n, elapsed⟩) :
    ∃ elapsed' : Duration, (pollUntil p longer).value s' = .ok ⟨n, elapsed'⟩ ∧
      elapsed.nanos ≤ elapsed'.nanos ∧
      elapsed'.nanos < elapsed.nanos + config.interval.nanos := by
  have hrun := pollUntil_run p config s
  have hrun' := pollUntil_run p longer s'
  obtain ⟨e, hlast, hv⟩ := last_of_pollUntil_ok hok
  have hsummary := ((hrun.lastCall hlast).ok_iff _).mp hok
  rw [Nat.zero_add] at hsummary
  obtain ⟨-, hsummary⟩ := hsummary
  cases hsummary
  rw [List.getLast?_eq_getElem?] at hlast
  obtain ⟨d, hd, hshadow⟩ := exists_shadow hs hs' hinterval htimeout hfree' hlast
  obtain ⟨hduration, hverdict⟩ := hs config _ e hlast
  obtain ⟨hduration', hverdict'⟩ := hs' longer _ d hd
  have hv' : d.verdict = .ok () := hverdict'.trans (hverdict.symm.trans hv)
  -- the evaluation that holds is the last one of the other poll too
  have hended := (pollCalls_schedule hfree').ended _ d hd (Or.inl hv')
  have hlength : (pollCalls p longer s').length = (pollCalls p config s).length := by
    obtain ⟨hlt, -⟩ := List.getElem?_eq_some_iff.mp hlast
    obtain ⟨hlt', -⟩ := List.getElem?_eq_some_iff.mp hd
    have hle := List.getElem?_eq_none_iff.mp hended
    omega
  have hlast' : (pollCalls p longer s').getLast? = some d := by
    rw [List.getLast?_eq_getElem?, hlength]
    exact hd
  have hok' := ((hrun'.lastCall hlast').ok_iff _).mpr ⟨hv', rfl⟩
  rw [Nat.zero_add, hlength] at hok'
  have horder := hrun.start_le_finish e (List.mem_of_getElem? hlast)
  have horder' := hrun'.start_le_finish d (List.mem_of_getElem? hd)
  have hbegan := hrun.le_start (Nat.le_refl _) hlast
  unfold Evaluation.duration at hduration hduration'
  unfold Evaluation.Shadows at hshadow
  refine ⟨_, hok', ?_, ?_⟩
  · change e.finish - s.now ≤ d.finish - s'.now
    omega
  · change d.finish - s'.now < e.finish - s.now + config.interval.nanos
    have hpos := config.interval_pos
    omega

end Patience

/-- A longer timeout does not turn a success into a failure.  A poll that succeeds does so after as
many evaluations with a longer one, and less than an interval later; one that times out has timed
out with a shorter timeout as well, after no more evaluations. -/
theorem pollUntil_patient
    {p : Predicate σ} {durations : Nat → Nat} {verdicts : Nat → Verdict} {s s' : Session σ}
    {config longer : PollConfig}
    (hs : p.ByNumber durations verdicts s) (hs' : p.ByNumber durations verdicts s')
    (hinterval : longer.interval = config.interval)
    (htimeout : config.timeout.nanos ≤ longer.timeout.nanos)
    (hfree : ((pollUntil p config).final s).cancelled = false)
    (hfree' : ((pollUntil p longer).final s').cancelled = false) :
    (∀ n elapsed, (pollUntil p config).value s = .ok ⟨n, elapsed⟩ →
      ∃ elapsed', (pollUntil p longer).value s' = .ok ⟨n, elapsed'⟩ ∧
        elapsed.nanos ≤ elapsed'.nanos ∧
        elapsed'.nanos < elapsed.nanos + config.interval.nanos) ∧
    ∀ shown n elapsed last,
      (pollUntil p longer).value s' = .error (.timedOut shown n elapsed last) →
      ∃ shown' m elapsed' last',
        (pollUntil p config).value s = .error (.timedOut shown' m elapsed' last') ∧ m ≤ n := by
  have hsuccess : ∀ n elapsed, (pollUntil p config).value s = .ok ⟨n, elapsed⟩ →
      ∃ elapsed' : Duration, (pollUntil p longer).value s' = .ok ⟨n, elapsed'⟩ ∧
        elapsed.nanos ≤ elapsed'.nanos ∧
        elapsed'.nanos < elapsed.nanos + config.interval.nanos := by
    intro n elapsed hok
    exact ok_of_ok hs hs' hinterval htimeout hfree' hok
  refine ⟨hsuccess, ?_⟩
  intro shown n elapsed failure htimedOut
  have hrun := pollUntil_run p config s
  rcases hrun.answer with ⟨⟨m, elapsed'⟩, hok⟩ | ⟨shown', m, elapsed', last', htimedOut'⟩ |
    ⟨_, _, _, -, hcancelled⟩
  · obtain ⟨_, hok', -⟩ := hsuccess m elapsed' hok
    cases htimedOut.symm.trans hok'
  · refine ⟨shown', m, elapsed', last', htimedOut', ?_⟩
    have hcount : m = 0 + (pollCalls p config s).length := by
      rw [← hrun.attempts_eq, htimedOut']
      rfl
    have hcount' : n = 0 + (pollCalls p longer s').length := by
      rw [← (pollUntil_run p longer s').attempts_eq, htimedOut]
      rfl
    have hfewer := length_le_of_patient hs hs' hinterval htimeout hfree'
    omega
  · exact absurd (hfree.symm.trans hcancelled) Bool.false_ne_true

/-- Eleven seconds, with a tick every three: the last gap is a second longer than in ten. -/
def elevenSeconds : PollConfig where
  timeout := .ofSecs 11
  interval := .ofSecs 3
  interval_pos := unevenTicks.interval_pos
  interval_le := by decide

/-- A predicate that holds from its fifth evaluation on. -/
def lateComer : Predicate Scene :=
  .scripted "late" 0 (Cue.ofOutcomes [false, false, false, false, true])

/-- A predicate that holds at the deadline of ten seconds holds a second later when there are
eleven; one that never does is out of time with both. -/
theorem lateComer_patient :
    (pollUntil lateComer unevenTicks).value rehearsal = .ok ⟨5, .ofSecs 10⟩ ∧
      (∃ elapsed', (pollUntil lateComer elevenSeconds).value rehearsal = .ok ⟨5, elapsed'⟩ ∧
        (Duration.ofSecs 10).nanos ≤ elapsed'.nanos ∧
        elapsed'.nanos < (Duration.ofSecs 10).nanos + (Duration.ofSecs 3).nanos) ∧
      ∃ shown m elapsed' last', (pollUntil hopeless unevenTicks).value rehearsal =
        .error (.timedOut shown m elapsed' last') ∧ m ≤ 5 := by
  have hlate := (Predicate.scripted_counted "late" 0
    (Cue.ofOutcomes [false, false, false, false, true])).byNumber rehearsal
  have hnever := (Predicate.scripted_counted "hopeless" 0
    [⟨0, false, .error (.unsatisfied "down")⟩]).byNumber rehearsal
  have hinterval : elevenSeconds.interval = unevenTicks.interval := rfl
  have htimeout : unevenTicks.timeout.nanos ≤ elevenSeconds.timeout.nanos := by decide
  have hok : (pollUntil lateComer unevenTicks).value rehearsal = .ok ⟨5, .ofSecs 10⟩ := by
    decide +kernel
  have hfree : ((pollUntil lateComer unevenTicks).final rehearsal).cancelled = false := by
    decide +kernel
  have hfree' : ((pollUntil lateComer elevenSeconds).final rehearsal).cancelled = false := by
    decide +kernel
  have htimedOut : (pollUntil hopeless elevenSeconds).value rehearsal =
      .error (.timedOut "hopeless" 5 (.ofSecs 11) (.unsatisfied "down")) := by
    decide +kernel
  have hidle : ((pollUntil hopeless unevenTicks).final rehearsal).cancelled = false := by
    decide +kernel
  have hidle' : ((pollUntil hopeless elevenSeconds).final rehearsal).cancelled = false := by
    decide +kernel
  obtain ⟨hsuccess, -⟩ := pollUntil_patient hlate hlate hinterval htimeout hfree hfree'
  obtain ⟨-, hfailure⟩ := pollUntil_patient hnever hnever hinterval htimeout hidle hidle'
  exact ⟨hok, hsuccess 5 _ hok, hfailure _ 5 _ _ htimedOut⟩

end ClusterReady

import ClusterReady.Proofs.PollSchedule
import ClusterReady.Proofs.Tally
import Mathlib.Algebra.Ring.Nat

/-!
# Every evaluation reads afresh

A check that looks something up sends one read for each evaluation of its predicate, always the
same one, and nothing else.  So the number of its requests is known from its attempts: it is the
same in a poll, and in a poll for several successes in a row each attempt has sent between one
request and as many as there have to be successes.
-/

namespace ClusterReady

open Session (Trail)

variable {σ : Type}

/-! ## Ticks -/

/-- A streak makes no more evaluations than it lacks successes. -/
theorem StreakRun.length_le
    {p : Predicate σ} {c : ConsistencyConfig} {token : Token} {left : Nat} {s t : Session σ}
    {calls : List (Evaluation σ)} {verdict : Verdict}
    (h : StreakRun p c token left s calls verdict t) : calls.length ≤ left := by
  induction h with
  | none => exact Nat.le_refl _
  | broken _ => exact Nat.succ_le_succ (Nat.zero_le _)
  | complete _ => exact Nat.le_refl _
  | interrupted _ _ _ _ => exact Nat.succ_le_succ (Nat.zero_le _)
  | next _ _ _ _ _ ih => exact Nat.succ_le_succ ih

theorem tickCalls_length (p : Predicate σ) (c : ConsistencyConfig) (s : Session σ) :
    1 ≤ (tickCalls p c s).length ∧ (tickCalls p c s).length ≤ c.required := by
  have hstreak := streak_run p c .run c.required s
  have hrequired : c.required ≠ 0 := Nat.pos_iff_ne_zero.mp c.required_pos
  obtain ⟨rest, hcalls⟩ := hstreak.exists_cons hrequired
  refine ⟨?_, hstreak.length_le⟩
  rw [tickCalls, hcalls, List.length_cons]
  exact Nat.succ_le_succ (Nat.zero_le _)

/-- What consists of parts has between `least` and `most` times as many items as it has parts. -/
theorem length_flatMap_bounds {α β : Type} {f : α → List β} {least most : Nat} (l : List α)
    (h : ∀ a ∈ l, least ≤ (f a).length ∧ (f a).length ≤ most) :
    l.length * least ≤ (l.flatMap f).length ∧ (l.flatMap f).length ≤ l.length * most := by
  induction l with
  | nil => simp
  | cons a rest ih =>
      obtain ⟨hfirst, hrest⟩ := List.forall_mem_cons.mp h
      obtain ⟨hleast, hmost⟩ := ih hrest
      rw [List.flatMap_cons, List.length_append, List.length_cons, Nat.succ_mul, Nat.succ_mul]
      omega

/-! ## Requests -/

section Requests

variable {p : Predicate σ} {r : Request} (hread : SingleRead (p.check .run) (some r))

include hread

theorem flatMap_requests {calls : List (Evaluation σ)}
    (h : ∀ e ∈ calls, e = p.evaluation .run e.before) :
    calls.flatMap requestTrail.of = calls.map fun e => ⟨e.start, r⟩ := by
  have heach : ∀ e ∈ calls, requestTrail.of e = [⟨e.start, r⟩] := by
    intro e he
    rw [h e he]
    exact (hread.requests e.before).between_eq
  rw [List.flatMap_congr heach, List.map_eq_flatMap]

theorem length_requests_of_tick {c : ConsistencyConfig} {tick : Evaluation σ}
    (htick : tick = (p.consistently c).evaluation .run tick.before) :
    (requestTrail.of tick).length = (tickCalls p c tick.before).length := by
  have hcalls : ∀ e ∈ tickCalls p c tick.before, e = p.evaluation .run e.before :=
    (streak_run p c .run c.required tick.before).of_mem
  rw [requestTrail.of_tick htick, flatMap_requests hread hcalls, List.length_map]

end Requests

namespace Check

/-- The requests that a check sends which begins in `s`. -/
def sent (c : Check σ) (s : Session σ) : List Sending := requestTrail.between s (c.run.final s)

/-- What a check that begins in `s` has sent and counted when it is over, where its read is `r`.  It
has `sent` the read once for each evaluation and nothing else, and its metrics and its report count
the attempts.  The requests are as many as the attempts of a poll; a steady check may send several
in one attempt. -/
structure FreshReads (c : Check σ) (r : Request) (s : Session σ) : Prop where
  recorded : Writes c.recorded.run c.run (c.evaluations s) s
  reads : r.method = .get
  sent : c.sent s = (c.evaluations s).map fun e => ⟨e.start, r⟩
  counted : Metrics.attemptsTotal (measurementTrail.between s (c.run.final s)) c.name =
    (c.ticks s).length
  summary : ∀ summary, (c.run.value s).outcome = .passed summary →
    summary.attempts = (c.ticks s).length
  polled : ∀ config, c.strategy = .poll config → (c.sent s).length = (c.ticks s).length
  steady : ∀ steady config, c.strategy = .consistent steady config →
    (c.ticks s).length ≤ (c.sent s).length ∧
      (c.sent s).length ≤ (c.ticks s).length * steady.required
  passed : ∀ steady config summary, c.strategy = .consistent steady config →
    (c.run.value s).outcome = .passed summary →
    ∃ failed last, c.ticks s = failed ++ [last] ∧
      (∀ tick ∈ failed, (∃ failure, tick.verdict = .error failure) ∧
        1 ≤ (requestTrail.of tick).length ∧ (requestTrail.of tick).length ≤ steady.required) ∧
      (c.sent s).length =
        steady.required + (failed.map fun tick => (requestTrail.of tick).length).sum

variable {server : Server σ} {c : Check σ} {r : Request}

theorem sent_eq (h : Lookup server c.predicate (some r)) (s : Session σ) :
    c.sent s = (c.evaluations s).map fun e => ⟨e.start, r⟩ := by
  have hadds : requestTrail.Adds c.run s ((c.evaluations s).flatMap requestTrail.of ++ []) :=
    adds_run c s
  rw [List.append_nil] at hadds
  rw [sent, hadds.between_eq]
  exact flatMap_requests (h.singleRead .run) fun e he => eq_evaluation_of_mem he

theorem attemptsTotal_run (h : Lookup server c.predicate (some r)) (s : Session σ) :
    Metrics.attemptsTotal (measurementTrail.between s (c.run.final s)) c.name =
      (c.ticks s).length := by
  have hlooks : c.LooksUp server := ⟨_, h⟩
  have htotal := attempts_ledger [Entry.turn c s] c.name
  have hname : ((Entry.turn c s).report.name == c.name) = true := beq_iff_eq.mpr (c.name_run s)
  rw [List.filter_cons, if_pos hname] at htotal
  rw [(run_measures hlooks.readsOnce s).between_eq]
  exact htotal

/-- All attempts of a check that has passed have failed, but for the last one. -/
theorem ticks_of_passed
    {s : Session σ} {summary : PollSummary} (h : (c.run.value s).outcome = .passed summary) :
    ∃ failed last, c.ticks s = failed ++ [last] ∧ last.verdict = .ok () ∧
      ∀ tick ∈ failed, ∃ failure, tick.verdict = .error failure := by
  by_cases hs : s.cancelled = true
  · rw [(run_of_cancelled hs).1] at h
    cases h
  · rw [ticks, if_neg hs]
    rw [Bool.not_eq_true] at hs
    rw [(run_of_not_cancelled hs).1] at h
    have hpassed : (reportOf c.name (c.wait.value (c.waiting s))).outcome.isPassed = true := by
      rw [h]
      rfl
    rw [← value_conclude c.name 0 _ s] at hpassed
    obtain ⟨found, hfound⟩ := exists_ok_of_conclude hpassed
    rw [wait_eq] at hfound
    obtain ⟨last, hlast, hv⟩ := last_of_pollUntil_ok hfound
    obtain ⟨failed, hsplit⟩ := List.getLast?_eq_some_iff.mp hlast
    have hrun := pollUntil_run c.driven c.timing (c.waiting s)
    rw [hsplit] at hrun
    exact ⟨failed, last, hsplit, hv, fun tick htick => (hrun.failed_before_last tick htick).1⟩

/-- A check whose read can be built sends that read for each evaluation and nothing else, whatever
the server answers, however the check waits and whenever the run is cancelled. -/
theorem run_freshReads (h : Lookup server c.predicate (some r)) (s : Session σ) :
    FreshReads c r s := by
  have hread := h.singleRead .run
  have hsent := sent_eq h s
  have hlength : (c.sent s).length = (c.evaluations s).length := by
    rw [hsent, List.length_map]
  constructor
  · exact run_recorded c s
  · exact hread.gets r rfl
  · exact hsent
  · exact attemptsTotal_run h s
  · intro summary hpassed
    have hsummary : summary = ⟨(Entry.turn c s).attempts, (Entry.turn c s).elapsed⟩ :=
      Entry.summary_of_passed hpassed
    rw [hsummary]
    rfl
  · intro config hstrategy
    rw [hlength, evaluations_of_poll hstrategy]
  · intro steady config hstrategy
    have hbounds := length_flatMap_bounds (c.ticks s) fun tick _ =>
      tickCalls_length c.predicate steady tick.before
    rw [Nat.mul_one, ← evaluations_of_consistent hstrategy, ← hlength] at hbounds
    exact hbounds
  · intro steady config summary hstrategy hpassed
    obtain ⟨failed, last, hticks, hv, hfailed⟩ := ticks_of_passed hpassed
    have hrequests : ∀ tick ∈ failed, (requestTrail.of tick).length =
        (tickCalls c.predicate steady tick.before).length := by
      intro tick htick
      have hmem : tick ∈ c.ticks s := by
        rw [hticks]
        exact List.mem_append_left _ htick
      exact length_requests_of_tick hread (eq_tick_of_mem hstrategy hmem)
    refine ⟨failed, last, hticks, ?_, ?_⟩
    · intro tick htick
      rw [hrequests tick htick]
      exact ⟨hfailed tick htick, tickCalls_length _ _ _⟩
    · have hmem : last ∈ c.ticks s := by
        rw [hticks]
        exact List.mem_append_right _ List.mem_cons_self
      have hlast := steadyTick_of_ok (eq_tick_of_mem hstrategy hmem) hv
      rw [hlength, evaluations_of_consistent hstrategy, hticks, List.flatMap_append,
        List.flatMap_singleton, List.length_append, hlast.complete, List.length_flatMap,
        List.map_congr_left hrequests, Nat.add_comm]

end Check

/-- A rehearsal in which the first request for the pods of the system is lost, and then one pod is
listed that has run. -/
def lossyStart : Session Scene where
  world := ⟨{}, { server := {
    routes := [⟨"GET", "/api/v1/namespaces/kube-system/pods",
      [{ exchange := .error "connection reset" },
        { exchange := .ok ⟨200, Text.Utf8.encode
          "\x7b\"items\":[\x7b\"status\":\x7b\"phase\":\"Succeeded\"\x7d\x7d]\x7d"⟩ }]⟩]
    fallback := { exchange := .error "no route to host" } } }⟩
  journal := {}

/-- The check that these pods are running twice in a row. -/
def podsTwice : Check Scene where
  name := "system-pods-running"
  predicate := podsRunning Scene.scripted "kube-system" ""
  strategy := .consistent twiceSteady tenSeconds

/-- This check passes in its second attempt, and has sent three reads. -/
theorem podsTwice_freshReads :
    ∃ r, Lookup Scene.scripted podsTwice.predicate (some r) ∧
      r.path = "/api/v1/namespaces/kube-system/pods" ∧
      podsTwice.FreshReads r lossyStart ∧
      ((podsTwice.run.value lossyStart).outcome.isPassed = true) ∧
      (podsTwice.sent lossyStart).map (·.instant) =
        [0, (Duration.ofSecs 2).nanos, (Duration.ofSecs 5).nanos] := by
  have hplain : (Pod.type.within "kube-system").Plain := pod_plain (by decide)
  have htarget := Url.target_of_isPlain hplain.path [("labelSelector", "")]
  have hlookup : Lookup Scene.scripted podsTwice.predicate
      (some ⟨.get, (Pod.type.within "kube-system").path, [("labelSelector", "")], none⟩) := by
    have hpods : Lookup Scene.scripted podsTwice.predicate
        (Server.listRequest (Pod.type.within "kube-system") "") := .pods "kube-system" ""
    rw [Server.listRequest, Server.requestOf, htarget] at hpods
    exact hpods
  have hpath : (Pod.type.within "kube-system").path = "/api/v1/namespaces/kube-system/pods" := by
    decide +kernel
  have hpassed : (podsTwice.run.value lossyStart).outcome.isPassed = true := by
    decide +kernel
  have hinstants : (podsTwice.sent lossyStart).map (·.instant) =
      [0, (Duration.ofSecs 2).nanos, (Duration.ofSecs 5).nanos] := by
    decide +kernel
  exact ⟨_, hlookup, hpath, Check.run_freshReads hlookup lossyStart, hpassed, hinstants⟩

end ClusterReady

import ClusterReady.Proofs.Digits
import ClusterReady.Proofs.ReplyVerdicts

/-!
# The verdict on pods

A pod is healthy when it has completed, or when it runs and lists containers all of which are
ready; a pod that lists none is not.  The pods that match a selector are as they should be when
there are some and each is healthy.  Otherwise an operator is told that there are none, or is told
of each pod that is not healthy.  A container that stops being ready does not make a verdict
better, and neither does another pod that is not healthy.
-/

namespace ClusterReady

namespace Pod

/-- The pod reports this phase. -/
def Reports (p : Pod) (phase : String) : Prop :=
  ∃ status, p.status = some status ∧ status.phase = some phase

/-- The pod lists its containers, of which there are some, and each of them is ready. -/
def ContainersReady (p : Pod) : Prop :=
  ∃ status containers, p.status = some status ∧ status.containerStatuses = some containers ∧
    containers ≠ [] ∧ ∀ c ∈ containers, c.ready = true

/-- The pod has completed, or it runs and its containers are ready. -/
def Healthy (p : Pod) : Prop :=
  p.Reports "Succeeded" ∨ p.Reports "Running" ∧ p.ContainersReady

/-- The pod `n` is `p` after one of its containers has stopped being ready. -/
def StopsReady (p n : Pod) : Prop :=
  ∃ status before c after, p.status = some status ∧
    status.containerStatuses = some (before ++ c :: after) ∧
    n = { p with status := some { status with
      containerStatuses := some (before ++ { c with ready := false } :: after) } }

section Phase

variable {p n : Pod} {x y : String}

theorem phase_of_reports (h : p.Reports x) : p.phase = x := by
  obtain ⟨status, hstatus, hphase⟩ := h
  rw [phase, hstatus, Option.bind_some, hphase, Option.getD_some]

theorem phase_of_silent (h : ∀ x, ¬p.Reports x) : p.phase = "Unknown" := by
  have hnone : p.status.bind (·.phase) = none := by
    rw [Option.bind_eq_none_iff]
    intro status hstatus
    apply Option.eq_none_iff_forall_ne_some.mpr
    intro x hphase
    exact h x ⟨status, hstatus, hphase⟩
  rw [phase, hnone, Option.getD_none]

/-- Any phase but the unknown one is what the pod reports. -/
theorem phase_eq_iff (hx : x ≠ "Unknown") : p.phase = x ↔ p.Reports x := by
  constructor
  · intro hphase
    by_contra hsilent
    apply hx
    rw [← hphase]
    apply phase_of_silent
    intro y hy
    have hyx := (phase_of_reports hy).symm.trans hphase
    exact hsilent (hyx ▸ hy)
  · exact phase_of_reports

theorem containersReady_iff :
    p.ContainersReady ↔ p.containers ≠ [] ∧ ∀ c ∈ p.containers, c.ready = true := by
  unfold ContainersReady containers
  cases p.status with
  | none => simp
  | some status => cases hcontainers : status.containerStatuses <;> simp [hcontainers]

theorem isHealthy_iff : p.isHealthy = true ↔ p.Healthy := by
  have hsucceeded := phase_eq_iff (p := p) (x := "Succeeded") (by decide)
  have hrunning := phase_eq_iff (p := p) (x := "Running") (by decide)
  rw [Healthy, containersReady_iff, ← hsucceeded, ← hrunning]
  simp [isHealthy, and_assoc]

instance : DecidablePred Healthy := fun _ => decidable_of_iff _ isHealthy_iff

/-- With a container that is not ready a pod is healthy only if it has completed. -/
theorem StopsReady.succeeded (h : p.StopsReady n) (hn : n.Healthy) : p.Reports "Succeeded" := by
  obtain ⟨status, before, c, after, hstatus, -, rfl⟩ := h
  rcases hn with ⟨_, ⟨⟩, hphase⟩ | ⟨-, _, _, ⟨⟩, ⟨⟩, -, hready⟩
  · exact ⟨status, hstatus, hphase⟩
  · have hc := hready { c with ready := false } (List.mem_append_right before List.mem_cons_self)
    cases hc

theorem StopsReady.not_healthy (h : p.StopsReady n) (hp : p.Reports "Running") : ¬n.Healthy := by
  intro hn
  have hphases := (phase_of_reports hp).symm.trans (phase_of_reports (h.succeeded hn))
  exact absurd hphases (by decide)

end Phase

def told (p : Pod) : String := p.metadata.shownName ++ " (" ++ p.phase ++ ")"

end Pod

def unhealthyPods (pods : List Pod) : List Pod := pods.filter fun p => ¬p.Healthy

/-- What an operator is told of pods some of which are not healthy. -/
def podsReport (pods : List Pod) : String :=
  s!"{(unhealthyPods pods).length} of {pods.length} pods not running: " ++
    ", ".intercalate ((unhealthyPods pods).map Pod.told)

/-! ## The verdict -/

section Verdict

variable {pods : List Pod}

theorem filter_not_isHealthy (pods : List Pod) :
    pods.filter (!·.isHealthy) = unhealthyPods pods := by
  apply List.filter_congr
  intro p _
  rw [Bool.eq_iff_iff]
  simp [← Pod.isHealthy_iff]

theorem unhealthyPods_eq_nil_iff : unhealthyPods pods = [] ↔ ∀ p ∈ pods, p.Healthy := by
  simp [unhealthyPods]

theorem evaluatePods_eq (hpods : pods ≠ []) :
    evaluatePods pods =
      if unhealthyPods pods = [] then .ok () else .error (.unsatisfied (podsReport pods)) := by
  have hsome : pods.isEmpty = false := List.isEmpty_eq_false_iff.mpr hpods
  unfold evaluatePods
  simp only [hsome, Bool.false_eq_true, if_false, filter_not_isHealthy, List.isEmpty_iff]
  rfl

theorem evaluatePods_ok_iff :
    evaluatePods pods = .ok () ↔ pods ≠ [] ∧ ∀ p ∈ pods, p.Healthy := by
  by_cases hpods : pods = []
  · subst hpods
    simp [evaluatePods]
  · rw [evaluatePods_eq hpods, ← unhealthyPods_eq_nil_iff]
    by_cases hhealthy : unhealthyPods pods = []
    · simp [hhealthy, hpods]
    · simp [hhealthy]

/-- A report begins with a number, so it does not say that there are no pods. -/
theorem podsReport_ne (pods : List Pod) : podsReport pods ≠ "no pods match" := by
  intro heq
  have hfront := congrArg (fun text => text.toList.head?) heq
  obtain ⟨c, rest, hdigits, hc⟩ := exists_toDigits_eq_cons (unhealthyPods pods).length
  simp only [podsReport, Nat.toString_eq_ofList_toDigits, String.toList_append,
    String.toList_ofList, hdigits, List.cons_append] at hfront
  cases hfront
  exact absurd hc (by decide)

theorem evaluatePods_none_iff :
    evaluatePods pods = .error (.unsatisfied "no pods match") ↔ pods = [] := by
  constructor
  · intro hnone
    by_contra hpods
    rw [evaluatePods_eq hpods] at hnone
    by_cases hhealthy : unhealthyPods pods = []
    · rw [if_pos hhealthy] at hnone
      cases hnone
    · rw [if_neg hhealthy] at hnone
      injection hnone with hfailure
      injection hfailure with hreport
      exact podsReport_ne pods hreport
  · rintro rfl
    rfl

end Verdict

/-- What is said of the pods that match a selector, and what it depends on.  No list passes with a
pod that is not healthy, wherever that stands, nor with one that runs and has a container that has
stopped being ready. -/
structure PodsVerdict (pods : List Pod) : Prop where
  ok_iff : evaluatePods pods = .ok () ↔ pods ≠ [] ∧ ∀ p ∈ pods, p.Healthy
  none_iff : evaluatePods pods = .error (.unsatisfied "no pods match") ↔ pods = []
  otherwise : pods ≠ [] → evaluatePods pods ≠ .ok () →
    evaluatePods pods = .error (.unsatisfied (podsReport pods)) ∧ 1 ≤ (unhealthyPods pods).length
  phase : ∀ p ∈ pods, (∀ x, p.Reports x → p.phase = x) ∧
    ((∀ x, ¬p.Reports x) → p.phase = "Unknown")
  unready : ∀ front p n back, pods = front ++ p :: back → p.StopsReady n →
    (evaluatePods (front ++ n :: back) = .ok () → evaluatePods pods = .ok ()) ∧
    (p.Reports "Running" → evaluatePods (front ++ n :: back) ≠ .ok ())
  joined : ∀ front p back, pods = front ++ back → ¬p.Healthy →
    evaluatePods (front ++ p :: back) ≠ .ok ()
  checked : ∀ {σ : Type} (server : Server σ) (token : Token) (s : Session σ) scope selector l,
    (server.list (Pod.type.within scope) Pod.type.decoder selector).value s = .ok l →
    l.items = pods → ((podsRunning server scope selector).check token).value s = evaluatePods pods

/-- Pods are as they should be when there are some and each of them is healthy. -/
theorem evaluatePods_verdict (pods : List Pod) : PodsVerdict pods := by
  have hpassed {front back : List Pod} {p : Pod}
      (hok : evaluatePods (front ++ p :: back) = .ok ()) : p.Healthy :=
    (evaluatePods_ok_iff.mp hok).2 p (List.mem_append_right front List.mem_cons_self)
  constructor
  · exact evaluatePods_ok_iff
  · exact evaluatePods_none_iff
  · intro hpods hfailed
    rw [evaluatePods_eq hpods] at hfailed ⊢
    by_cases hhealthy : unhealthyPods pods = []
    · exact absurd (if_pos hhealthy) hfailed
    · exact ⟨if_neg hhealthy, List.length_pos_iff.mpr hhealthy⟩
  · intro p _
    exact ⟨fun x => Pod.phase_of_reports, Pod.phase_of_silent⟩
  · rintro front p n back rfl hstops
    refine ⟨?_, fun hrunning hok => hstops.not_healthy hrunning (hpassed hok)⟩
    intro hok
    have hp : p.Healthy := .inl (hstops.succeeded (hpassed hok))
    rw [evaluatePods_ok_iff] at hok ⊢
    simp only [List.forall_mem_append, List.forall_mem_cons] at hok ⊢
    exact ⟨by simp, hok.2.1, hp, hok.2.2.2⟩
  · intro front p back _ hunhealthy hok
    exact hunhealthy (hpassed hok)
  · rintro σ server token s scope selector l hlist rfl
    exact ((podsRunning_sorts server token s scope selector).judged l hlist).1

/-- A pod without a status counts as one whose phase is unknown, and one that runs needs ready
containers. -/
example : evaluatePods [
      { metadata := { name := some "job" }, status := some ⟨some "Succeeded", none⟩ },
      { metadata := { generateName := some "dns-" }, status := some ⟨some "Running", some []⟩ },
      { metadata := { name := some "new" } }] =
    .error (.unsatisfied "2 of 3 pods not running: dns- (Running), new (Unknown)") := by
  decide +kernel

end ClusterReady

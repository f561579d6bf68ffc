import ClusterReady.Proofs.RecordFields
import ClusterReady.Proofs.ReplyVerdicts
import Mathlib.Data.List.Perm.Basic

/-!
# The verdict on workloads

What a list reply says of a workload is read out of its document: how many replicas are desired,
how many are ready, and its name.  The workloads of a list are ready when each of them has as many
ready replicas as are desired; otherwise an operator is told of those that do not, one by one.
-/

namespace ClusterReady

open Json (nameIn numberIn)

namespace WorkloadKind

/-- How many replicas are desired of the workload in a document. -/
def desiredIn : WorkloadKind → Json → Int32
  | deployment => numberIn "spec" "replicas" 1
  | daemonSet => numberIn "status" "desiredNumberScheduled" 0
  | statefulSet => numberIn "spec" "replicas" 1

def readyIn : WorkloadKind → Json → Int32
  | deployment => numberIn "status" "readyReplicas" 0
  | daemonSet => numberIn "status" "numberReady" 0
  | statefulSet => numberIn "status" "readyReplicas" 0

/-- The documents of the workloads with too few ready replicas, in their order. -/
def lagging (kind : WorkloadKind) (docs : List Json) : List Json :=
  docs.filter fun doc => kind.readyIn doc < kind.desiredIn doc

/-- What an operator is told of workloads some of which lag behind. -/
def report (kind : WorkloadKind) (docs : List Json) : String :=
  s!"{(kind.lagging docs).length} of {docs.length} " ++ kind.name ++ "s not ready: " ++
    ", ".intercalate ((kind.lagging docs).map fun doc =>
      nameIn doc ++ s!" ({kind.readyIn doc}/{kind.desiredIn doc})")

def readinessIn (kind : WorkloadKind) (doc : Json) : Readiness :=
  ⟨nameIn doc, (kind.desiredIn doc).toInt, (kind.readyIn doc).toInt⟩

end WorkloadKind

/-! ## Workloads as they are decoded -/

theorem ReplicaSpec.shows_replicas :
    Json.Shows fields "replicas" Json.int32 (·.getD 1) (·.replicas.getD 1) :=
  ⟨⟨_, rfl, fun _ _ => rfl⟩, by simp [fields]⟩

theorem ReplicaStatus.shows_readyReplicas :
    Json.Shows fields "readyReplicas" Json.int32 (·.getD 0) (·.readyReplicas.getD 0) :=
  ⟨⟨_, rfl, fun _ _ => rfl⟩, by simp [fields]⟩

theorem DaemonSetStatus.shows_desiredNumberScheduled :
    Json.Shows fields "desiredNumberScheduled" Json.int32 (·.getD 0) desiredNumberScheduled :=
  ⟨⟨_, rfl, fun _ _ => rfl⟩, by simp [fields]⟩

theorem DaemonSetStatus.shows_numberReady :
    Json.Shows fields "numberReady" Json.int32 (·.getD 0) numberReady :=
  ⟨⟨_, rfl, fun _ _ => rfl⟩, by simp [fields]⟩

theorem Replicated.readiness_eq {id : ResourceId} {specType statusType : String}
    {specChecked statusChecked : List Json.Checked} {doc : Json} {w : Replicated}
    (h : (ApiObject.type id (Json.record specType {} ReplicaSpec.fields specChecked)
      (Json.record statusType {} ReplicaStatus.fields statusChecked)).decoder doc = .ok w) :
    w.readiness = ⟨nameIn doc, (numberIn "spec" "replicas" 1 doc).toInt,
      (numberIn "status" "readyReplicas" 0 doc).toInt⟩ := by
  have hname := ApiObject.shownName_eq h
  have hdesired := Json.toInt_numberIn 1 ReplicaSpec.shows_replicas ApiObject.shows_spec rfl rfl h
  have hready := Json.toInt_numberIn 0 ReplicaStatus.shows_readyReplicas ApiObject.shows_status
    rfl rfl h
  rw [readiness, ← hname, ← hdesired, ← hready]
  cases w.spec <;> cases w.status <;> rfl

theorem DaemonSet.readiness_eq {doc : Json} {d : DaemonSet} (h : type.decoder doc = .ok d) :
    d.readiness = ⟨nameIn doc, (numberIn "status" "desiredNumberScheduled" 0 doc).toInt,
      (numberIn "status" "numberReady" 0 doc).toInt⟩ := by
  have hname := ApiObject.shownName_eq h
  have hdesired := Json.toInt_numberIn 0 DaemonSetStatus.shows_desiredNumberScheduled
    ApiObject.shows_status rfl rfl h
  have hready := Json.toInt_numberIn 0 DaemonSetStatus.shows_numberReady ApiObject.shows_status
    rfl rfl h
  rw [readiness, ← hname, ← hdesired, ← hready]
  cases d.status <;> rfl

namespace WorkloadKind

variable {kind : WorkloadKind} {doc : Json} {r : Readiness}

/-- What is decoded of a workload is what its document says. -/
theorem eq_readinessIn (h : kind.readinessDecoder doc = .ok r) : r = kind.readinessIn doc := by
  cases kind with
  | deployment =>
      obtain ⟨w, hw, rfl⟩ := exists_ok_of_map h
      exact Replicated.readiness_eq hw
  | daemonSet =>
      obtain ⟨d, hd, rfl⟩ := exists_ok_of_map h
      exact DaemonSet.readiness_eq hd
  | statefulSet =>
      obtain ⟨w, hw, rfl⟩ := exists_ok_of_map h
      exact Replicated.readiness_eq hw

theorem items_eq {reply : Json} {l : ObjectList Readiness}
    (h : ObjectList.decoder kind.readinessDecoder reply = .ok l) :
    l.items = (ObjectList.documents reply).map kind.readinessIn :=
  Json.eachItem_eq_map (fun _ _ hdoc => eq_readinessIn hdoc) (ObjectList.eachItem_of_decoder h)

end WorkloadKind

/-! ## The verdict -/

section Verdict

variable {kind : WorkloadKind} {items : List Readiness}

theorem evaluateWorkloads_ok_iff :
    evaluateWorkloads kind items = .ok () ↔ ∀ r ∈ items, r.desired ≤ r.ready := by
  have hready : (items.filter (!·.isReady)).isEmpty = true ↔ ∀ r ∈ items, r.desired ≤ r.ready := by
    rw [List.isEmpty_iff, List.filter_eq_nil_iff]
    simp [Readiness.isReady]
  rw [← hready]
  unfold evaluateWorkloads
  by_cases hempty : (items.filter (!·.isReady)).isEmpty = true
  · simp only [hempty, if_true]
  · simp only [hempty, if_false, reduceCtorEq]

theorem WorkloadKind.filter_readinessIn (docs : List Json) :
    (docs.map kind.readinessIn).filter (!·.isReady) = (kind.lagging docs).map kind.readinessIn := by
  have hlags (doc : Json) :
      (!(kind.readinessIn doc).isReady) = decide (kind.readyIn doc < kind.desiredIn doc) := by
    rw [Readiness.isReady, ← decide_not, decide_eq_decide, Int.not_le, Int32.lt_iff_toInt_lt]
    rfl
  rw [lagging, List.filter_map]
  congr 1
  exact List.filter_congr fun doc _ => hlags doc

theorem evaluateWorkloads_otherwise {docs : List Json}
    (h : evaluateWorkloads kind (docs.map kind.readinessIn) ≠ .ok ()) :
    evaluateWorkloads kind (docs.map kind.readinessIn) =
      .error (.unsatisfied (kind.report docs)) := by
  unfold evaluateWorkloads at h ⊢
  simp only [WorkloadKind.filter_readinessIn] at h ⊢
  by_cases hempty : ((kind.lagging docs).map kind.readinessIn).isEmpty = true
  · exact absurd (if_pos hempty) h
  · rw [if_neg hempty, List.length_map, List.length_map, List.map_map]
    rfl

end Verdict

/-- Where the request for a list can be built, the client reads what comes of it. -/
theorem Server.value_list_of_request {σ α : Type} (server : Server σ) {c : Collection}
    {d : Json.Decoder α} {selector : String} {s : Session σ} {r : Request}
    (h : listRequest c selector = some r) : (server.list c d selector).value s =
      read (ObjectList.decoder d) (server.exchanged r s).content := by
  unfold listRequest at h
  rw [list, Run.value_bind, Run.value_pure, value_exchange, h]

/-- What is said of the workloads in a list reply, and what it depends on.  An operator is told of
each workload that lags behind; the order of the workloads does not matter, and the parts of a list
are ready when the list is. -/
structure WorkloadsVerdict (kind : WorkloadKind) (reply : Json) (items : List Readiness) :
    Prop where
  ok_iff : evaluateWorkloads kind items = .ok () ↔
    ∀ doc ∈ ObjectList.documents reply, kind.desiredIn doc ≤ kind.readyIn doc
  otherwise : evaluateWorkloads kind items ≠ .ok () → evaluateWorkloads kind items =
    .error (.unsatisfied (kind.report (ObjectList.documents reply)))
  checked : ∀ {σ : Type} (server : Server σ) (token : Token) (s : Session σ) scope selector r body,
    Server.listRequest (kind.collection scope) selector = some r →
    (server.exchanged r s).content = .ok body → Json.read body = ⟨reply, false⟩ →
    ((workloadsReady server kind scope selector).check token).value s =
      evaluateWorkloads kind items
  reordered : ∀ others, others.Perm items →
    (evaluateWorkloads kind others = .ok () ↔ evaluateWorkloads kind items = .ok ())
  split : ∀ front back, items = front ++ back →
    (evaluateWorkloads kind items = .ok () ↔
      evaluateWorkloads kind front = .ok () ∧ evaluateWorkloads kind back = .ok ())

/-- The workloads of a list reply are ready when each has the replicas that are desired of it. -/
theorem evaluateWorkloads_verdict {kind : WorkloadKind} {reply : Json} {l : ObjectList Readiness}
    (h : ObjectList.decoder kind.readinessDecoder reply = .ok l) :
    WorkloadsVerdict kind reply l.items := by
  have hitems := WorkloadKind.items_eq h
  constructor
  · simp only [evaluateWorkloads_ok_iff, hitems, List.forall_mem_map, Int32.le_iff_toInt_le,
      WorkloadKind.readinessIn]
  · intro hfailed
    rw [hitems] at hfailed ⊢
    exact evaluateWorkloads_otherwise hfailed
  · intro σ server token s scope selector r body hrequest hcontent hbody
    have hlist : (server.list (kind.collection scope) kind.readinessDecoder selector).value s =
        .ok l := by
      rw [server.value_list_of_request hrequest, hcontent, Server.read, Json.decodeText, hbody]
      simp only [h]
      rfl
    exact ((workloadsReady_sorts server token s kind scope selector).judged l hlist).1
  · intro others hperm
    rw [evaluateWorkloads_ok_iff, evaluateWorkloads_ok_iff]
    exact ⟨fun hall r hr => hall r (hperm.mem_iff.mpr hr), fun hall r hr =>
      hall r (hperm.mem_iff.mp hr)⟩
  · intro front back hsplit
    simp only [evaluateWorkloads_ok_iff, hsplit, List.forall_mem_append]

/-- Deployments of which the first is being replaced and has a replica too many, the second and
the third do not say how many replicas they want, and the last, without a name, wants none. -/
def sparseDeployments : Json :=
  .obj [("metadata", .obj []), ("items", .arr [
    .obj [("metadata", .obj [("name", .str "dns")]), ("spec", .obj [("replicas", .int 2)]),
      ("status", .obj [("readyReplicas", .int 3)])],
    .obj [("metadata", .obj [("generateName", .str "proxy-")])],
    .obj [("metadata", .obj [("name", .str "metrics")]), ("spec", .obj [("replicas", .null)]),
      ("status", .obj [])],
    .obj [("spec", .obj [("replicas", .int 0)])]])]

theorem sparseDeployments_verdict :
    ∃ l, ObjectList.decoder WorkloadKind.deployment.readinessDecoder sparseDeployments = .ok l ∧
      WorkloadsVerdict .deployment sparseDeployments l.items ∧
      evaluateWorkloads .deployment l.items = .error (.unsatisfied
        "2 of 4 Deployments not ready: proxy- (0/1), metrics (0/1)") := by
  refine ⟨_, rfl, evaluateWorkloads_verdict rfl, ?_⟩
  decide +kernel

end ClusterReady

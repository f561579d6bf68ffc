import ClusterReady.Proofs.Accepted
import ClusterReady.Proofs.Trail

/-!
# One read for each evaluation

An evaluation of a check's predicate sends one read at once, always the same, or none when it
cannot be built.  An action sends no read: it is an exchange, of which it tells when that is over.
Neither measures anything.
-/

namespace ClusterReady

open Session (Trail)

variable {σ α β : Type}

/-- The step sends this read at once, or none, and measures nothing. -/
structure SingleRead (m : Step σ α) (read : Option Request) : Prop where
  gets : ∀ r ∈ read, r.method = .get
  requests : ∀ s, requestTrail.Adds m s (read.toList.map fun r => ⟨s.now, r⟩)
  measurements : ∀ s, measurementTrail.Adds m s []

/-- From `s` the step sends no read, and measures nothing. -/
structure NoRead (m : Step σ α) (s : Session σ) : Prop where
  requests : ∃ sent, requestTrail.Adds m s sent ∧ ∀ x ∈ sent, x.request.method ≠ .get
  measurements : measurementTrail.Adds m s []

theorem SingleRead.answer
    {m : Step σ α} {read : Option Request} (h : SingleRead m read) (f : α → β) :
    SingleRead (m >>= fun a => pure (f a)) read where
  gets := h.gets
  requests s := (h.requests s).before (Trail.Adds.pure _ _)
  measurements s := (h.measurements s).before (Trail.Adds.pure _ _)

namespace NoRead

variable {m : Step σ α} {f : α → Step σ β} {s : Session σ}

theorem pure (a : α) (s : Session σ) : NoRead (Pure.pure a) s where
  requests := ⟨[], Trail.Adds.pure a s, by simp⟩
  measurements := Trail.Adds.pure a s

theorem note (e : Event) (s : Session σ) : NoRead (Step.note e) s where
  requests := ⟨[], Trail.Adds.note e s, by simp⟩
  measurements := Trail.Adds.note e s

theorem cancelled (s : Session σ) : NoRead Step.cancelled s where
  requests := ⟨[], Trail.Adds.cancelled s, by simp⟩
  measurements := Trail.Adds.cancelled s

theorem bind (hm : NoRead m s) (hf : NoRead (f (m.value s)) (m.final s)) :
    NoRead (m >>= f) s := by
  obtain ⟨sent, hsent, hnone⟩ := hm.requests
  obtain ⟨more, hmore, hrest⟩ := hf.requests
  constructor
  · refine ⟨sent ++ more, hsent.bind hmore, ?_⟩
    intro x hx
    rcases List.mem_append.mp hx with hx | hx
    · exact hnone x hx
    · exact hrest x hx
  · exact hm.measurements.after hf.measurements

end NoRead

/-! ## The client -/

namespace Server

variable (server : Server σ)

def requestOf (method : Method) (path : String) (query : List (String × String))
    (body : Option Json) : Option Request :=
  (Url.target path query).map fun (shown, pairs) => ⟨method, shown, pairs, body⟩

theorem method_requestOf
    {method : Method} {path : String} {query : List (String × String)} {body : Option Json}
    {r : Request} (h : r ∈ requestOf method path query body) : r.method = method := by
  obtain ⟨target, -, rfl⟩ := Option.map_eq_some_iff.mp h
  rfl

theorem send_requests (r : Request) (answer : Run (World σ) α) (s : Session σ) :
    requestTrail.Adds (Step.send r answer) s [⟨s.now, r⟩] :=
  List.reverse_cons

theorem send_measurements (r : Request) (answer : Run (World σ) α) (s : Session σ) :
    measurementTrail.Adds (Step.send r answer) s [] :=
  (List.append_nil _).symm

/-- An exchange does what its request does, and nothing when that cannot be built. -/
theorem final_exchange
    (method : Method) (path : String) (query : List (String × String)) (body : Option Json)
    (s : Session σ) :
    (server.exchange method path query body).final s =
      match requestOf method path query body with
      | none => s
      | some r => (Step.send r (server.answer r)).final s := by
  unfold exchange requestOf
  cases Url.target path query with
  | none => rfl
  | some target =>
      rw [Run.final_bind]
      cases (Step.send _ _).value s with
      | error reason => rfl
      | ok reply => rfl

theorem exchange_requests
    (method : Method) (path : String) (query : List (String × String)) (body : Option Json)
    (s : Session σ) :
    requestTrail.Adds (server.exchange method path query body) s
      ((requestOf method path query body).toList.map fun r => ⟨s.now, r⟩) := by
  rw [Trail.Adds, final_exchange]
  cases requestOf method path query body with
  | none => exact (List.append_nil _).symm
  | some r => exact send_requests r (server.answer r) s

theorem exchange_measurements
    (method : Method) (path : String) (query : List (String × String)) (body : Option Json)
    (s : Session σ) :
    measurementTrail.Adds (server.exchange method path query body) s [] := by
  rw [Trail.Adds, final_exchange]
  cases requestOf method path query body with
  | none => exact (List.append_nil _).symm
  | some r => exact send_measurements r (server.answer r) s

theorem exchange_singleRead (path : String) (query : List (String × String)) :
    SingleRead (server.exchange .get path query none) (requestOf .get path query none) where
  gets _ := method_requestOf
  requests := server.exchange_requests _ _ _ _
  measurements := server.exchange_measurements _ _ _ _

theorem exchange_noRead
    {method : Method} (hmethod : method ≠ .get) (path : String) (query : List (String × String))
    (body : Option Json) (s : Session σ) : NoRead (server.exchange method path query body) s where
  requests := by
    refine ⟨_, server.exchange_requests method path query body s, ?_⟩
    intro x hx
    obtain ⟨r, hr, rfl⟩ := List.mem_map.mp hx
    rw [method_requestOf (Option.mem_toList.mp hr)]
    exact hmethod
  measurements := server.exchange_measurements _ _ _ _ s

/-- The read that asks for an object, unless it has no name. -/
def getRequest (c : Collection) (name : String) : Option Request :=
  if name.isEmpty then none else requestOf .get (c.objectPath name) [] none

def listRequest (c : Collection) (selector : String) : Option Request :=
  requestOf .get c.path [("labelSelector", selector)] none

theorem get_singleRead (c : Collection) (d : Json.Decoder α) (name : String) :
    SingleRead (server.get c d name) (getRequest c name) := by
  unfold get getRequest
  by_cases hname : name.isEmpty = true
  · rw [if_pos hname, if_pos hname]
    exact ⟨by simp, Trail.Adds.pure _, Trail.Adds.pure _⟩
  · rw [if_neg hname, if_neg hname]
    exact (server.exchange_singleRead _ _).answer _

theorem list_singleRead (c : Collection) (d : Json.Decoder α) (selector : String) :
    SingleRead (server.list c d selector) (listRequest c selector) :=
  (server.exchange_singleRead _ _).answer _

end Server

/-! ## The checks of a suite -/

/-- The predicates that look something up at a server, each with the read that it sends; there is
none when the read cannot be built. -/
inductive Lookup (server : Server σ) : Predicate σ → Option Request → Prop where
  | nodes (selector : String) (expected : CountRange) :
      Lookup server (nodesReady server selector expected)
        (Server.listRequest Node.type.all selector)
  | workloads (kind : WorkloadKind) (scope selector : String) :
      Lookup server (workloadsReady server kind scope selector)
        (Server.listRequest (kind.collection scope) selector)
  | pods (scope selector : String) :
      Lookup server (podsRunning server scope selector)
        (Server.listRequest (Pod.type.within scope) selector)
  | condition (target : Target) (scope : Option String) (name type : String) :
      Lookup server (conditionStatus server target scope name type)
        (Server.getRequest (target.collection scope) name)
  | claim (scope name : String) :
      Lookup server (claimBound server scope name)
        (Server.getRequest (Claim.type.within scope) name)
  | deletion {α : Type} (c : Collection) (d : Json.Decoder α) (metadata : α → ObjectMeta)
      (kind name : String) :
      Lookup server (resourceDeleted server c d metadata kind name) (Server.getRequest c name)

theorem Lookup.singleRead
    {server : Server σ} {p : Predicate σ} {read : Option Request} (h : Lookup server p read)
    (token : Token) : SingleRead (p.check token) read := by
  cases h with
  | nodes _ _ => exact (server.list_singleRead _ _ _).answer _
  | workloads _ _ _ => exact (server.list_singleRead _ _ _).answer _
  | pods _ _ => exact (server.list_singleRead _ _ _).answer _
  | condition _ _ _ _ => exact (server.get_singleRead _ _ _).answer _
  | claim _ _ => exact (server.get_singleRead _ _ _).answer _
  | deletion _ _ _ _ _ => exact (server.get_singleRead _ _ _).answer _

namespace Check

/-- The predicate of the check looks something up at this server. -/
def LooksUp (server : Server σ) (c : Check σ) : Prop := ∃ read, Lookup server c.predicate read

/-- Each evaluation of the predicate of a check sends one read at once, always the same. -/
def ReadsOnce (c : Check σ) : Prop :=
  ∃ read, ∀ token, SingleRead (c.predicate.check token) read

theorem LooksUp.readsOnce {server : Server σ} {c : Check σ} (h : c.LooksUp server) :
    c.ReadsOnce := by
  obtain ⟨read, hlookup⟩ := h
  exact ⟨read, hlookup.singleRead⟩

end Check

theorem Battery.mem_controlPlane [Horizon]
    {server : Server σ} {c : SuiteConfig} {checks : List (Check σ)}
    (h : controlPlane server c = .ok checks) {check : Check σ} (hcheck : check ∈ checks) :
    ∃ (pool : NodePool) (poll : PollConfig), check = ⟨"control-plane-nodes-ready",
      nodesReady server pool.controlPlaneSelector pool.count, .poll poll⟩ := by
  unfold controlPlane at h
  cases hpool : c.controlPlane with
  | none =>
      simp only [hpool] at h
      cases h
      cases hcheck
  | some pool =>
      cases hvisible : c.provider.hasVisibleControlPlane with
      | false =>
          simp only [hpool, hvisible, Bool.false_eq_true, if_false] at h
          cases h
          cases hcheck
      | true =>
          simp only [hpool, hvisible, if_true] at h
          obtain ⟨poll, -, h⟩ := exists_ok_of_bind h
          cases h
          exact ⟨pool, poll, List.mem_singleton.mp hcheck⟩

theorem Battery.eq_of_workers [Horizon]
    {server : Server σ} {c : SuiteConfig} {check : Check σ} (h : workers server c = .ok check) :
    ∃ poll, check = ⟨"worker-nodes-ready",
      nodesReady server c.workers.workerSelector c.workers.count, .poll poll⟩ := by
  obtain ⟨poll, -, h⟩ := exists_ok_of_bind h
  cases h
  exact ⟨poll, rfl⟩

/-- A check of the battery is on nodes, on the system, on the cluster's own object, on a certificate
or on the metrics API. -/
theorem mem_standardChecks [Horizon]
    {server : Server σ} {c : SuiteConfig} {poll : PollConfig} {checks : List (Check σ)}
    (h : standardChecks server c = .ok checks) (hpoll : c.poll = .ok poll)
    {check : Check σ} (hcheck : check ∈ checks) :
    (∃ selector count, check.predicate = nodesReady server selector count) ∨
      (∃ strategy kind, check = Battery.systemWorkloads server c strategy kind) ∨
      (∃ strategy, check = Battery.systemPods server c strategy) ∨
      (∃ r, c.clusterResource = some r ∧ check = Battery.clusterResource server (.poll poll) r) ∨
      (∃ n ∈ c.certificates, check = Battery.certificate server (.poll poll) n) ∨
      c.metricsApi = true ∧ check = Battery.metricsApi server (.poll poll) := by
  obtain ⟨found, hfound, h⟩ := exists_ok_of_bind h
  cases hpoll.symm.trans hfound
  obtain ⟨steady, -, h⟩ := exists_ok_of_bind h
  obtain ⟨planes, hplanes, h⟩ := exists_ok_of_bind h
  obtain ⟨pool, hpool, h⟩ := exists_ok_of_bind h
  cases h
  simp only [List.mem_append, List.mem_map, List.mem_singleton, Option.mem_toList] at hcheck
  rcases hcheck with (((((hcheck | rfl) | ⟨kind, -, rfl⟩) | rfl) | ⟨r, hr, rfl⟩) | ⟨n, hn, rfl⟩) |
    hcheck
  · obtain ⟨pool, poll, rfl⟩ := Battery.mem_controlPlane hplanes hcheck
    exact .inl ⟨_, _, rfl⟩
  · obtain ⟨poll, rfl⟩ := Battery.eq_of_workers hpool
    exact .inl ⟨_, _, rfl⟩
  · exact .inr (.inl ⟨_, kind, rfl⟩)
  · exact .inr (.inr (.inl ⟨_, rfl⟩))
  · exact .inr (.inr (.inr (.inl ⟨r, hr, rfl⟩)))
  · exact .inr (.inr (.inr (.inr (.inl ⟨n, hn, rfl⟩))))
  · by_cases hmetrics : c.metricsApi = true
    · rw [if_pos hmetrics, List.mem_singleton] at hcheck
      exact .inr (.inr (.inr (.inr (.inr ⟨hmetrics, hcheck⟩))))
    · rw [if_neg hmetrics] at hcheck
      cases hcheck

theorem standardChecks_lookUp [Horizon]
    {server : Server σ} {c : SuiteConfig} {checks : List (Check σ)}
    (h : standardChecks server c = .ok checks) : ∀ check ∈ checks, check.LooksUp server := by
  obtain ⟨poll, hpoll, -⟩ := exists_ok_of_bind h
  intro check hcheck
  rcases mem_standardChecks h hpoll hcheck with ⟨selector, count, hnodes⟩ | ⟨_, kind, rfl⟩ |
    ⟨_, rfl⟩ | ⟨r, -, rfl⟩ | ⟨n, -, rfl⟩ | ⟨-, rfl⟩
  · refine ⟨Server.listRequest Node.type.all selector, ?_⟩
    rw [hnodes]
    exact .nodes selector count
  · exact ⟨_, .workloads _ _ _⟩
  · exact ⟨_, .pods _ _⟩
  · exact ⟨_, .condition _ _ _ _⟩
  · exact ⟨_, .condition _ _ _ _⟩
  · exact ⟨_, .condition _ _ _ _⟩

theorem standardChecks_readsOnce [Horizon]
    {server : Server σ} {c : SuiteConfig} {checks : List (Check σ)}
    (h : standardChecks server c = .ok checks) : ∀ check ∈ checks, check.ReadsOnce :=
  fun check hcheck => (standardChecks_lookUp h check hcheck).readsOnce

namespace Storage

variable (server : Server σ) (scratch : String) (poll : PollConfig)

theorem creationChecks_lookUp :
    ∀ check ∈ [claimCheck server scratch poll, podCheck server scratch poll],
      check.LooksUp server := by
  intro check hcheck
  rcases List.mem_pair.mp hcheck with rfl | rfl
  · exact ⟨_, .claim _ _⟩
  · exact ⟨_, .pods _ _⟩

theorem deletionChecks_lookUp :
    ∀ check ∈ [claimGoneCheck server scratch poll], check.LooksUp server := by
  intro check hcheck
  rw [List.mem_singleton.mp hcheck]
  exact ⟨_, .deletion _ _ _ _ _⟩

theorem removalChecks_lookUp :
    ∀ check ∈ [namespaceGoneCheck server scratch poll], check.LooksUp server := by
  intro check hcheck
  rw [List.mem_singleton.mp hcheck]
  exact ⟨_, .deletion _ _ _ _ _⟩

theorem creationChecks_readsOnce :
    ∀ check ∈ [claimCheck server scratch poll, podCheck server scratch poll],
      check.ReadsOnce :=
  fun check hcheck => (creationChecks_lookUp server scratch poll check hcheck).readsOnce

theorem deletionChecks_readsOnce :
    ∀ check ∈ [claimGoneCheck server scratch poll], check.ReadsOnce :=
  fun check hcheck => (deletionChecks_lookUp server scratch poll check hcheck).readsOnce

theorem removalChecks_readsOnce :
    ∀ check ∈ [namespaceGoneCheck server scratch poll], check.ReadsOnce :=
  fun check hcheck => (removalChecks_lookUp server scratch poll check hcheck).readsOnce

end Storage

/-! ## Actions -/

/-- In the session `t` no more has happened than in `s`, but events may have been told. -/
structure Session.Tells (s t : Session σ) : Prop where
  world_eq : t.world = s.world
  requests_eq : t.journal.requests = s.journal.requests
  measurements_eq : t.journal.measurements = s.journal.measurements

theorem Session.Tells.refl (s : Session σ) : s.Tells s := ⟨rfl, rfl, rfl⟩

theorem Session.Tells.note (s : Session σ) (e : Event) : s.Tells (s.note e) := ⟨rfl, rfl, rfl⟩

theorem NoRead.of_tells {m : Step σ α} {n : Step σ β} {s : Session σ} (h : NoRead m s)
    (htells : (m.final s).Tells (n.final s)) : NoRead n s := by
  obtain ⟨sent, hsent, hnone⟩ := h.requests
  have hrequests : requestTrail.items (n.final s) = requestTrail.items (m.final s) :=
    congrArg List.reverse htells.requests_eq
  have hmeasurements : measurementTrail.items (n.final s) = measurementTrail.items (m.final s) :=
    congrArg List.reverse htells.measurements_eq
  exact ⟨⟨sent, hrequests.trans hsent, hnone⟩, hmeasurements.trans h.measurements⟩

section Actions

variable (server : Server σ) (s : Session σ)

theorem final_create (c : Collection) (d : Json.Decoder α) (manifest : Json) :
    (server.create c d manifest).final s =
      (server.exchange .post c.path [] (some manifest)).final s := by
  unfold Server.create
  rw [Run.final_bind, Run.final_pure]

theorem final_delete (c : Collection) (d : Json.Decoder α) (name : String) (immediate : Bool) :
    (server.delete c d name immediate).final s =
      if name.isEmpty then s
      else (server.exchange .delete (c.objectPath name) []
        (some (.obj (if immediate then [("gracePeriodSeconds", .int 0)] else [])))).final s := by
  unfold Server.delete
  by_cases hname : name.isEmpty = true
  · rw [if_pos hname, if_pos hname]
    rfl
  · simp only [hname, Bool.false_eq_true, if_false, Run.final_bind]
    cases (server.exchange _ _ _ _).value s with
    | error e => rw [Run.final_pure]
    | ok body => rw [Run.final_pure]

theorem createObject_tells
    (t : ResourceType α) (scope : Option String) (manifest : Json) (action : String) :
    ((server.create ⟨t.id, scope⟩ t.decoder manifest).final s).Tells
      ((createObject server t scope manifest action).final s) := by
  unfold createObject
  rw [Run.final_bind]
  cases (server.create ⟨t.id, scope⟩ t.decoder manifest).value s with
  | ok _ =>
      simp only [Run.final_bind, Step.final_note, Run.final_pure]
      exact .note _ _
  | error cause =>
      by_cases hconflict : cause.isConflict = true
      · simp only [hconflict, if_true, Run.final_bind, Step.final_note, Run.final_pure]
        exact .note _ _
      · simp only [hconflict, Bool.false_eq_true, if_false, Run.final_pure]
        exact .refl _

theorem deleteObject_tells
    (t : ResourceType α) (scope : Option String) (name : String) (immediate : Bool)
    (action : String) :
    ((server.delete ⟨t.id, scope⟩ t.decoder name immediate).final s).Tells
      ((deleteObject server t scope name immediate action).final s) := by
  unfold deleteObject
  rw [Run.final_bind]
  cases (server.delete ⟨t.id, scope⟩ t.decoder name immediate).value s with
  | ok _ =>
      simp only [Run.final_bind, Step.final_note, Run.final_pure]
      exact .note _ _
  | error cause =>
      by_cases hgone : cause.isNotFound = true
      · simp only [hgone, if_true, Run.final_bind, Step.final_note, Run.final_pure]
        exact .note _ _
      · simp only [hgone, Bool.false_eq_true, if_false, Run.final_pure]
        exact .refl _

theorem createObject_noRead
    (t : ResourceType α) (scope : Option String) (manifest : Json) (action : String) :
    NoRead (createObject server t scope manifest action) s := by
  have hpost : Method.post ≠ .get := by decide
  have hsent := server.exchange_noRead hpost (Collection.mk t.id scope).path [] (some manifest) s
  apply hsent.of_tells
  rw [← final_create server s ⟨t.id, scope⟩ t.decoder manifest]
  exact createObject_tells server s t scope manifest action

theorem delete_noRead
    (c : Collection) (d : Json.Decoder α) (name : String) (immediate : Bool) :
    NoRead (server.delete c d name immediate) s := by
  have hdelete : Method.delete ≠ .get := by decide
  by_cases hname : name.isEmpty = true
  · have hnothing : NoRead (Pure.pure () : Step σ Unit) s := NoRead.pure () s
    apply hnothing.of_tells
    rw [final_delete, if_pos hname]
    exact .refl s
  · have hsent := server.exchange_noRead hdelete (c.objectPath name) []
      (some (.obj (if immediate then [("gracePeriodSeconds", .int 0)] else []))) s
    apply hsent.of_tells
    rw [final_delete, if_neg hname]
    exact .refl _

theorem deleteObject_noRead
    (t : ResourceType α) (scope : Option String) (name : String) (immediate : Bool)
    (action : String) : NoRead (deleteObject server t scope name immediate action) s :=
  (delete_noRead server s _ _ _ _).of_tells (deleteObject_tells server s _ _ _ _ _)

theorem bothDone_noRead
    {first second : Step σ ActionResult} (hfirst : ∀ s, NoRead first s)
    (hsecond : ∀ s, NoRead second s) : NoRead (bothDone first second) s := by
  unfold bothDone
  refine (hfirst s).bind ?_
  cases first.value s with
  | ok _ => exact hsecond _
  | error e => exact NoRead.pure _ _

theorem createProbe_noRead (scope : String) (storageClass : Option String) :
    NoRead (createProbe server scope storageClass) s :=
  bothDone_noRead s (fun s => createObject_noRead server s _ _ _ _)
    (fun s => createObject_noRead server s _ _ _ _)

theorem deleteProbe_noRead (scope : String) : NoRead (deleteProbe server scope) s :=
  bothDone_noRead s (fun s => deleteObject_noRead server s _ _ _ _ _)
    (fun s => deleteObject_noRead server s _ _ _ _ _)

end Actions

end ClusterReady

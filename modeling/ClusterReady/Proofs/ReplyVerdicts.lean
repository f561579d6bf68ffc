import ClusterReady.Proofs.Interruption

/-!
# What a check makes of a reply

The client reads a reply or says why it cannot, and a check makes a verdict of that.  What was read
is judged.  A refusal whose status has the code 404 says that there is no such object: a check that
waits for a deletion holds then, and the other checks of one object find a mismatch.  Whatever else
the client says is a failure to read, in its own words.  So nothing but a refusal by the server is
taken for the end of an object.
-/

namespace ClusterReady

variable {σ α : Type}

/-! ## What the client makes of a reply -/

/-- The document that comes of a request, or the reason why there is none. -/
def Exchange.content : Exchange → Except ClientError String
  | .error reason => .error (.transport reason)
  | .ok reply => reply.content

/-- The reply refuses its request with this status, which is the one in its body; where the body has
none, the HTTP status stands for it. -/
def Reply.Refuses (reply : Reply) (status : Status) : Prop :=
  (400 ≤ reply.status ∧ reply.status ≤ 599) ∧
    ∃ body, Text.Utf8.decode reply.body = .ok body ∧
      status = (Json.decodeText Status.decoder body).toOption.getD (.unreadable reply.status body)

theorem Reply.content_eq_refused_iff {reply : Reply} {status : Status} :
    reply.content = .error (.refused status) ↔ reply.Refuses status := by
  unfold content Refuses
  cases hbody : Text.Utf8.decode reply.body with
  | error fault => simp
  | ok body =>
      by_cases hrange : 400 ≤ reply.status ∧ reply.status ≤ 599
      · have hrefused : (decide (400 ≤ reply.status) && decide (reply.status ≤ 599)) = true := by
          simpa using hrange
        simp only [hrefused, if_true]
        cases hstatus : Json.decodeText Status.decoder body with
        | ok found => simp [hrange, hstatus, Except.toOption, eq_comm]
        | error fault => simp [hrange, hstatus, Except.toOption, eq_comm]
      · have haccepted : (decide (400 ≤ reply.status) && decide (reply.status ≤ 599)) = false := by
          simpa using hrange
        simp [haccepted, hrange]

example : Reply.content ⟨500, Text.Utf8.encode "\x7b\"code\":404\x7d"⟩ =
    .error (.refused { code := 404 }) := by
  decide +kernel

theorem Reply.content_ne_unnamed (reply : Reply) : reply.content ≠ .error .unnamed := by
  unfold content
  split
  · simp
  · split
    · split <;> simp
    · simp

theorem Exchange.content_ne_unnamed (x : Exchange) : x.content ≠ .error .unnamed := by
  cases x with
  | error reason => simp [content]
  | ok reply => exact reply.content_ne_unnamed

theorem Exchange.content_eq_refused {x : Exchange} {status : Status}
    (h : x.content = .error (.refused status)) : ∃ reply, x = .ok reply ∧ reply.Refuses status := by
  cases x with
  | error reason => cases h
  | ok reply => exact ⟨reply, rfl, Reply.content_eq_refused_iff.mp h⟩

namespace Server

theorem read_eq_refused_iff {d : Json.Decoder α} {content : Except ClientError String}
    {status : Status} :
    read d content = .error (.refused status) ↔ content = .error (.refused status) := by
  cases content with
  | error e => simp [read]
  | ok body => cases hbody : Json.decodeText d body <;> simp [read, hbody, Except.mapError]

theorem read_eq_unnamed_iff {d : Json.Decoder α} {content : Except ClientError String} :
    read d content = .error .unnamed ↔ content = .error .unnamed := by
  cases content with
  | error e => simp [read]
  | ok body => cases hbody : Json.decodeText d body <;> simp [read, hbody, Except.mapError]

variable (server : Server σ)

/-- What comes of a request that is sent in `s`. -/
def exchanged (r : Request) (s : Session σ) : Exchange := (Step.send r (server.answer r)).value s

theorem value_exchange
    (method : Method) (path : String) (query : List (String × String)) (body : Option Json)
    (s : Session σ) :
    (server.exchange method path query body).value s =
      match requestOf method path query body with
      | none => .error .badTarget
      | some r => (server.exchanged r s).content := by
  unfold exchange requestOf
  cases Url.target path query with
  | none => rfl
  | some target =>
      simp only [Run.value_bind, Option.map_some, exchanged]
      cases (Step.send _ _).value s with
      | error reason => rfl
      | ok reply => rfl

variable {c : Collection} {d : Json.Decoder α} {name : String} {s : Session σ}

theorem value_get_of_request {r : Request} (h : getRequest c name = some r) :
    (server.get c d name).value s = read d (server.exchanged r s).content := by
  unfold getRequest at h
  by_cases hname : name.isEmpty = true
  · rw [if_pos hname] at h
    cases h
  · rw [if_neg hname] at h
    unfold get
    rw [if_neg hname, Run.value_bind, Run.value_pure, value_exchange, h]

/-- The client says that an object is unnamed exactly when it has no name. -/
theorem get_unnamed_iff : (server.get c d name).value s = .error .unnamed ↔ name = "" := by
  by_cases hname : name.isEmpty = true
  · have hempty := String.isEmpty_iff.mp hname
    unfold get
    rw [if_pos hname]
    simp [hempty]
  · have hsome := mt String.isEmpty_iff.mpr hname
    unfold get
    rw [if_neg hname, Run.value_bind, Run.value_pure, read_eq_unnamed_iff, value_exchange]
    cases requestOf .get (c.objectPath name) [] none with
    | none => simp [hsome]
    | some r => simp [hsome, Exchange.content_ne_unnamed]

theorem list_ne_unnamed (c : Collection) (d : Json.Decoder α) (selector : String) (s : Session σ) :
    (server.list c d selector).value s ≠ .error .unnamed := by
  unfold list
  rw [Run.value_bind, Run.value_pure, Ne, read_eq_unnamed_iff, value_exchange]
  cases requestOf .get c.path [("labelSelector", selector)] none with
  | none => simp
  | some r => exact Exchange.content_ne_unnamed _

theorem refused_of_get {status : Status}
    (h : (server.get c d name).value s = .error (.refused status)) :
    ∃ r reply, getRequest c name = some r ∧ server.exchanged r s = .ok reply ∧
      reply.Refuses status := by
  cases hrequest : getRequest c name with
  | some r =>
      rw [server.value_get_of_request hrequest, read_eq_refused_iff] at h
      obtain ⟨reply, hreply, hrefuses⟩ := Exchange.content_eq_refused h
      exact ⟨r, reply, rfl, hreply, hrefuses⟩
  | none =>
      unfold getRequest at hrequest
      unfold get at h
      by_cases hname : name.isEmpty = true
      · rw [if_pos hname] at h
        cases h
      · rw [if_neg hname] at h hrequest
        rw [Run.value_bind, Run.value_pure, read_eq_refused_iff, value_exchange, hrequest] at h
        cases h

theorem get_of_refuses {r : Request} {reply : Reply} {status : Status}
    (h : getRequest c name = some r) (hreply : server.exchanged r s = .ok reply)
    (hrefuses : reply.Refuses status) :
    (server.get c d name).value s = .error (.refused status) := by
  rw [server.value_get_of_request h, read_eq_refused_iff, hreply]
  exact Reply.content_eq_refused_iff.mpr hrefuses

end Server

/-! ## Verdicts -/

/-- The verdict is on what was read: it is as it should be, or it is not. -/
def Verdict.Judged (v : Verdict) : Prop := v = .ok () ∨ ∃ reason, v = .error (.unsatisfied reason)

namespace Verdict.Judged

theorem ok : Judged (.ok ()) := .inl rfl

theorem unsatisfied (reason : String) : Judged (.error (.unsatisfied reason)) := .inr ⟨reason, rfl⟩

theorem ite {p : Prop} [Decidable p] {v w : Verdict} (hv : v.Judged) (hw : w.Judged) :
    Judged (if p then v else w) := by
  by_cases hp : p
  · rw [if_pos hp]
    exact hv
  · rw [if_neg hp]
    exact hw

theorem not_read {v : Verdict} (h : v.Judged) (reason : String) : v ≠ .error (.read reason) := by
  rcases h with rfl | ⟨found, rfl⟩
  · simp
  · simp

end Verdict.Judged

section Judges

open Verdict.Judged

theorem evaluateNodes_judged (nodes : List Node) (selector : String) (expected : CountRange) :
    Verdict.Judged (evaluateNodes nodes selector expected) :=
  ite ok (unsatisfied _)

theorem evaluateWorkloads_judged (kind : WorkloadKind) (items : List Readiness) :
    Verdict.Judged (evaluateWorkloads kind items) :=
  ite ok (unsatisfied _)

theorem evaluatePods_judged (pods : List Pod) : Verdict.Judged (evaluatePods pods) :=
  ite (unsatisfied _) (ite ok (unsatisfied _))

theorem evaluateClaim_judged (shown : String) (claim : Claim) :
    Verdict.Judged (evaluateClaim shown claim) :=
  ite ok (unsatisfied _)

theorem evaluateCondition_judged (data : Json) (type expected : String) :
    Verdict.Judged (evaluateCondition data type expected) := by
  unfold evaluateCondition
  cases ObservedCondition.find? data type with
  | none => exact unsatisfied _
  | some c => exact ite ok (unsatisfied _)

end Judges

theorem ClientError.isNotFound_iff {e : ClientError} :
    e.isNotFound = true ↔ ∃ status, e = .refused status ∧ status.code = 404 := by
  cases e <;> simp [isNotFound, code?, notFound]

/-- What a verdict says where `answer` is what the client gave: `judge` is on what was read, and
`missing` on an object that does not exist, which is for the code in the status of a refusal to
say. -/
structure Verdict.Sorts (answer : Except ClientError α) (judge : α → Verdict)
    (missing : Status → Verdict) (v : Verdict) : Prop where
  judged : ∀ a, answer = .ok a → v = judge a ∧ v.Judged
  absent : ∀ status, answer = .error (.refused status) → status.code = 404 → v = missing status
  unread : ∀ e, answer = .error e → (∀ status, e = .refused status → status.code ≠ 404) →
    v = .error (.read e.text)

namespace Verdict

variable {judge : α → Verdict}

theorem of_sorts (hjudge : ∀ a, (judge a).Judged) (answer : Except ClientError α) :
    Sorts answer judge (fun status => .error (.read status.text)) (Verdict.of judge answer) := by
  constructor
  · rintro a rfl
    exact ⟨rfl, hjudge a⟩
  · rintro status rfl -
    rfl
  · rintro e rfl -
    rfl

theorem ofObject_sorts (absent : Verdict) (hjudge : ∀ a, (judge a).Judged)
    (answer : Except ClientError α) :
    Sorts answer judge (fun _ => absent) (Verdict.ofObject absent judge answer) := by
  constructor
  · rintro a rfl
    exact ⟨rfl, hjudge a⟩
  · rintro status rfl hcode
    have hgone := ClientError.isNotFound_iff.mpr ⟨status, rfl, hcode⟩
    rw [ofObject, if_pos hgone]
  · rintro e rfl hother
    have hthere : ¬e.isNotFound = true := by
      intro hgone
      obtain ⟨status, hstatus, hcode⟩ := ClientError.isNotFound_iff.mp hgone
      exact hother status hstatus hcode
    rw [ofObject, if_neg hthere]
    rfl

end Verdict

/-! ## The checks -/

section Sorts

variable (server : Server σ) (token : Token) (s : Session σ)

theorem nodesReady_sorts (selector : String) (expected : CountRange) :
    Verdict.Sorts ((server.list Node.type.all Node.type.decoder selector).value s)
      (fun l => evaluateNodes l.items selector expected)
      (fun status => .error (.read status.text))
      (((nodesReady server selector expected).check token).value s) := by
  simp only [nodesReady, Run.value_bind, Run.value_pure]
  exact Verdict.of_sorts (fun _ => evaluateNodes_judged _ selector expected) _

theorem workloadsReady_sorts (kind : WorkloadKind) (scope selector : String) :
    Verdict.Sorts ((server.list (kind.collection scope) kind.readinessDecoder selector).value s)
      (fun l => evaluateWorkloads kind l.items)
      (fun status => .error (.read status.text))
      (((workloadsReady server kind scope selector).check token).value s) := by
  simp only [workloadsReady, Run.value_bind, Run.value_pure]
  exact Verdict.of_sorts (fun _ => evaluateWorkloads_judged kind _) _

theorem podsRunning_sorts (scope selector : String) :
    Verdict.Sorts ((server.list (Pod.type.within scope) Pod.type.decoder selector).value s)
      (fun l => evaluatePods l.items)
      (fun status => .error (.read status.text))
      (((podsRunning server scope selector).check token).value s) := by
  simp only [podsRunning, Run.value_bind, Run.value_pure]
  exact Verdict.of_sorts (fun _ => evaluatePods_judged _) _

theorem claimBound_sorts (scope name : String) :
    Verdict.Sorts ((server.get (Claim.type.within scope) Claim.type.decoder name).value s)
      (evaluateClaim (scope ++ "/" ++ name))
      (fun _ => .error (.unsatisfied ("PVC " ++ scope ++ "/" ++ name ++ " not found")))
      (((claimBound server scope name).check token).value s) :=
  Verdict.ofObject_sorts _ (evaluateClaim_judged _) _

theorem conditionStatus_sorts
    (target : Target) (scope : Option String) (name type : String) :
    Verdict.Sorts ((server.get (target.collection scope) DynamicObject.decoder name).value s)
      (fun o => evaluateCondition o.data type conditionHolds)
      (fun _ => .error (.unsatisfied
        (target.kind ++ " " ++ qualifiedName scope name ++ " not found")))
      (((conditionStatus server target scope name type).check token).value s) :=
  Verdict.ofObject_sorts _ (fun _ => evaluateCondition_judged _ type conditionHolds) _

theorem resourceDeleted_sorts
    (c : Collection) (d : Json.Decoder α) (metadata : α → ObjectMeta) (kind name : String) :
    Verdict.Sorts ((server.get c d name).value s)
      (fun o => .error (.unsatisfied (kind ++ " " ++ name ++ " " ++ deletionState (metadata o))))
      (fun _ => .ok ())
      (((resourceDeleted server c d metadata kind name).check token).value s) := by
  simp only [resourceDeleted, Run.value_bind, Run.value_pure]
  exact Verdict.ofObject_sorts _ (fun _ => Verdict.Judged.unsatisfied _) _

end Sorts

/-- What the checks that look something up at a server make of what the client gives them in `s`.
An object that does not exist is a mismatch, but to the check for a deletion it is what that waits
for. -/
structure FailureTaxonomy (server : Server σ) (token : Token) (s : Session σ) : Prop where
  nodes : ∀ selector expected,
    Verdict.Sorts ((server.list Node.type.all Node.type.decoder selector).value s)
      (fun l => evaluateNodes l.items selector expected)
      (fun status => .error (.read status.text))
      (((nodesReady server selector expected).check token).value s)
  workloads : ∀ kind scope selector,
    Verdict.Sorts ((server.list (kind.collection scope) kind.readinessDecoder selector).value s)
      (fun l => evaluateWorkloads kind l.items)
      (fun status => .error (.read status.text))
      (((workloadsReady server kind scope selector).check token).value s)
  pods : ∀ scope selector,
    Verdict.Sorts ((server.list (Pod.type.within scope) Pod.type.decoder selector).value s)
      (fun l => evaluatePods l.items)
      (fun status => .error (.read status.text))
      (((podsRunning server scope selector).check token).value s)
  claim : ∀ scope name,
    Verdict.Sorts ((server.get (Claim.type.within scope) Claim.type.decoder name).value s)
      (evaluateClaim (scope ++ "/" ++ name))
      (fun _ => .error (.unsatisfied ("PVC " ++ scope ++ "/" ++ name ++ " not found")))
      (((claimBound server scope name).check token).value s)
  condition : ∀ target scope name type,
    Verdict.Sorts ((server.get (target.collection scope) DynamicObject.decoder name).value s)
      (fun o => evaluateCondition o.data type conditionHolds)
      (fun _ => .error (.unsatisfied
        (target.kind ++ " " ++ qualifiedName scope name ++ " not found")))
      (((conditionStatus server target scope name type).check token).value s)
  deletion : ∀ {α : Type} (c : Collection) (d : Json.Decoder α) metadata kind name,
    Verdict.Sorts ((server.get c d name).value s)
      (fun o => .error (.unsatisfied (kind ++ " " ++ name ++ " " ++ deletionState (metadata o))))
      (fun _ => .ok ())
      (((resourceDeleted server c d metadata kind name).check token).value s)
  uninterrupted : ∀ p read, Lookup server p read → (p.check token).value s ≠ .error .interrupted
  gone : ∀ {α : Type} (c : Collection) (d : Json.Decoder α) metadata kind name,
    ((resourceDeleted server c d metadata kind name).check token).value s = .ok () →
    ∃ r reply status, Server.getRequest c name = some r ∧
      server.exchanged r s = .ok reply ∧ reply.Refuses status ∧ status.code = 404 ∧
      ∀ (other : Server σ) (t : Session σ) (r' : Request), other.exchanged r' t = .ok reply →
        (∀ scope name, Server.getRequest (Claim.type.within scope) name = some r' →
          ((claimBound other scope name).check token).value t =
            .error (.unsatisfied ("PVC " ++ scope ++ "/" ++ name ++ " not found"))) ∧
        ∀ target scope name type, Server.getRequest (target.collection scope) name = some r' →
          ((conditionStatus other target scope name type).check token).value t =
            .error (.unsatisfied (target.kind ++ " " ++ qualifiedName scope name ++ " not found"))

/-- Each check that looks something up tells a mismatch from a failure to read by what the client
gives it, and an object that is gone by the code of a refusal alone. -/
theorem lookups_taxonomy (server : Server σ) (token : Token) (s : Session σ) :
    FailureTaxonomy server token s := by
  constructor
  · exact nodesReady_sorts server token s
  · exact workloadsReady_sorts server token s
  · exact podsRunning_sorts server token s
  · exact claimBound_sorts server token s
  · exact conditionStatus_sorts server token s
  · intro α
    exact resourceDeleted_sorts server token s
  · intro p read hlookup
    exact hlookup.not_interrupted token s
  · intro α c d metadata kind name hgone
    obtain ⟨e, hget, hmissing⟩ := resourceDeleted_found hgone
    obtain ⟨status, rfl, hcode⟩ := ClientError.isNotFound_iff.mp hmissing
    obtain ⟨r, reply, hrequest, hreply, hrefuses⟩ := server.refused_of_get hget
    refine ⟨r, reply, status, hrequest, hreply, hrefuses, hcode, ?_⟩
    intro other t r' hsame
    constructor
    · intro scope name hbuilt
      have hrefused := other.get_of_refuses (d := Claim.type.decoder) hbuilt hsame hrefuses
      exact (claimBound_sorts other token t scope name).absent status hrefused hcode
    · intro target scope name type hbuilt
      have hrefused := other.get_of_refuses (d := DynamicObject.decoder) hbuilt hsame hrefuses
      exact (conditionStatus_sorts other token t target scope name type).absent status hrefused
        hcode

end ClusterReady

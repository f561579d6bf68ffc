import ClusterReady.Proofs.Cleanup
import ClusterReady.Proofs.ReplyVerdicts

/-!
# Actions over what an earlier run left behind

Each step of an action is one request.  It is done when the client takes a document from the reply,
and also when the server refuses it with the one code which says that nothing is left to do: the
object that should be created exists, or the one that should be deleted does not.  The first step
that is not done ends the action with the client's words, and no further request is sent.  So where
nothing is left to do an action can be repeated: it sends the same requests and is done each time.
-/

namespace ClusterReady

open Session (Trail)

variable {σ α β : Type}

/-! ## Requests of a step -/

/-- From `s` the step sends these requests, and no others. -/
def Sends (m : Step σ α) (s : Session σ) (requests : List Request) : Prop :=
  ∃ sent, requestTrail.Adds m s sent ∧ sent.map (·.request) = requests

namespace Sends

variable {m : Step σ α} {f : α → Step σ β} {s : Session σ} {requests more : List Request}

theorem pure (a : α) (s : Session σ) : Sends (Pure.pure a) s [] :=
  ⟨[], Trail.Adds.pure a s, rfl⟩

theorem bind (hm : Sends m s requests) (hf : Sends (f (m.value s)) (m.final s) more) :
    Sends (m >>= f) s (requests ++ more) := by
  obtain ⟨sent, hsent, rfl⟩ := hm
  obtain ⟨rest, hrest, rfl⟩ := hf
  exact ⟨sent ++ rest, hsent.bind hrest, List.map_append⟩

theorem answer (hm : Sends m s requests) (g : α → β) :
    Sends (m >>= fun a => Pure.pure (g a)) s requests := by
  have hall := hm.bind (f := fun a => Pure.pure (g a)) (pure _ _)
  rw [List.append_nil] at hall
  exact hall

theorem of_tells {n : Step σ β} (hm : Sends m s requests)
    (htells : (m.final s).Tells (n.final s)) : Sends n s requests := by
  obtain ⟨sent, hsent, hrequests⟩ := hm
  have hitems : requestTrail.items (n.final s) = requestTrail.items (m.final s) :=
    congrArg List.reverse htells.requests_eq
  exact ⟨sent, hitems.trans hsent, hrequests⟩

theorem exchange (server : Server σ) {path : String} (hpath : Url.isPlain path = true)
    (method : Method) (body : Option Json) (s : Session σ) :
    Sends (server.exchange method path [] body) s [⟨method, path, [], body⟩] := by
  refine ⟨_, server.exchange_requests method path [] body s, ?_⟩
  rw [Server.requestOf, Url.target_of_isPlain hpath]
  rfl

end Sends

/-- A step, time after time, with its values in order. -/
def Step.times (m : Step σ α) : Nat → Step σ (List α)
  | 0 => return []
  | n + 1 => do
    let a ← m
    let rest ← times m n
    return a :: rest

theorem Step.value_times {m : Step σ α} {a : α} (h : ∀ s, m.value s = a) (n : Nat) (s : Session σ) :
    (m.times n).value s = List.replicate n a := by
  induction n generalizing s with
  | zero => rfl
  | succ n ih =>
      rw [times, Run.value_bind, Run.value_bind, Run.value_pure, h s, ih, List.replicate_succ]

theorem Sends.times {m : Step σ α} {requests : List Request} (h : ∀ s, Sends m s requests)
    (n : Nat) (s : Session σ) : Sends (m.times n) s (List.replicate n requests).flatten := by
  induction n generalizing s with
  | zero => exact Sends.pure [] s
  | succ n ih =>
      rw [List.replicate_succ, List.flatten_cons]
      exact (h s).bind ((ih (m.final s)).answer _)

/-! ## One step -/

theorem ClientError.code?_eq_some_iff {e : ClientError} {code : Nat} :
    e.code? = some code ↔ ∃ status, e = .refused status ∧ status.code = code := by
  cases e <;> simp [code?]

/-- What an action says where the client answers this, and a refusal with the code is tolerated. -/
def actionResult (tolerated : Nat) (action : String) : Except ClientError α → ActionResult
  | .ok _ => .ok ()
  | .error cause => if cause.code? = some tolerated then .ok () else .error ⟨action, cause⟩

/-- A step of an action: its request, how the client takes a document from the reply, the code of a
refusal which says that nothing is left to do, and the name under which it fails. -/
structure ActionStep (α : Type) where
  request : Request
  decode : String → Except DecodeFault α
  tolerated : Nat
  action : String

namespace ActionStep

def creation (t : ResourceType α) (scope : Option String) (manifest : Json) (action : String) :
    ActionStep α where
  request := (Collection.mk t.id scope).creation manifest
  decode := Json.decodeText t.decoder
  tolerated := 409
  action := action

def deletion (t : ResourceType α) (scope : Option String) (name : String) (immediate : Bool)
    (action : String) : ActionStep (α ⊕ Status) where
  request := (Collection.mk t.id scope).deletion name immediate
  decode := Server.deletion t.decoder
  tolerated := 404
  action := action

variable (p : ActionStep α)

def answer (x : Exchange) : Except ClientError α :=
  match x.content with
  | .error cause => .error cause
  | .ok body => (p.decode body).mapError .notDecoded

/-- The step is done: the client takes a document from the reply, or the reply refuses the request
with the code that is tolerated. -/
def Done (x : Exchange) : Prop :=
  (∃ a, p.answer x = .ok a) ∨
    ∃ reply status, x = .ok reply ∧ reply.Refuses status ∧ status.code = p.tolerated

/-- What an action of this step alone says. -/
def result (x : Exchange) : ActionResult := actionResult p.tolerated p.action (p.answer x)

variable {p} {x : Exchange} {cause : ClientError}

theorem answer_refused_iff {status : Status} :
    p.answer x = .error (.refused status) ↔ ∃ reply, x = .ok reply ∧ reply.Refuses status := by
  have hcontent : p.answer x = .error (.refused status) ↔ x.content = .error (.refused status) := by
    unfold answer
    cases x.content with
    | error cause => simp
    | ok body => cases hbody : p.decode body <;> simp [hbody, Except.mapError]
  rw [hcontent]
  constructor
  · exact Exchange.content_eq_refused
  · rintro ⟨reply, rfl, hrefuses⟩
    exact Reply.content_eq_refused_iff.mpr hrefuses

/-- Where the client does not take a document, the code decides. -/
theorem done_iff_of_error (h : p.answer x = .error cause) :
    p.Done x ↔ cause.code? = some p.tolerated := by
  rw [ClientError.code?_eq_some_iff]
  constructor
  · rintro (⟨a, ha⟩ | ⟨reply, status, hx, hrefuses, hcode⟩)
    · rw [h] at ha
      cases ha
    · have hrefused := (answer_refused_iff (p := p)).mpr ⟨reply, hx, hrefuses⟩
      rw [h] at hrefused
      cases hrefused
      exact ⟨status, rfl, hcode⟩
  · rintro ⟨status, rfl, hcode⟩
    obtain ⟨reply, hx, hrefuses⟩ := answer_refused_iff.mp h
    exact .inr ⟨reply, status, hx, hrefuses, hcode⟩

theorem result_of_not_done (h : p.answer x = .error cause) (hrefused : ¬p.Done x) :
    p.result x = .error ⟨p.action, cause⟩ := by
  rw [done_iff_of_error h] at hrefused
  simp only [result, actionResult, h, hrefused, if_false]

theorem result_ok_iff : p.result x = .ok () ↔ p.Done x := by
  cases hanswer : p.answer x with
  | ok a =>
      have hdone : p.Done x := .inl ⟨a, hanswer⟩
      simp [result, actionResult, hanswer, hdone]
  | error cause =>
      rw [done_iff_of_error hanswer]
      by_cases hcode : cause.code? = some p.tolerated
      · simp [result, actionResult, hanswer, hcode]
      · simp [result, actionResult, hanswer, hcode]

end ActionStep

/-- The action is this step alone. -/
structure ActionStep.Governs (p : ActionStep α) (server : Server σ) (m : Step σ ActionResult) :
    Prop where
  sends : ∀ s, Sends m s [p.request]
  value : ∀ s, m.value s = p.result (server.exchanged p.request s)

section Objects

variable (server : Server σ) (t : ResourceType α) (scope : Option String) (action : String)

/-- Where the client has no document, the action tells of a refusal that is tolerated, and fails
with any other cause. -/
theorem value_toleration (tolerated : Nat) (event : Event) (cause : ClientError) (s : Session σ) :
    (if cause.code? == some tolerated then do
        Step.note event
        return .ok ()
      else return .error ⟨action, cause⟩ : Step σ ActionResult).value s =
        actionResult tolerated action (.error cause : Except ClientError α) := by
  by_cases hcode : cause.code? = some tolerated
  · rw [if_pos (beq_iff_eq.mpr hcode), actionResult, if_pos hcode]
    rfl
  · rw [if_neg (mt beq_iff_eq.mp hcode), actionResult, if_neg hcode]
    rfl

theorem createObject_value (manifest : Json) (s : Session σ) :
    (createObject server t scope manifest action).value s =
      actionResult 409 action ((server.create ⟨t.id, scope⟩ t.decoder manifest).value s) := by
  rw [createObject, Run.value_bind]
  cases (server.create ⟨t.id, scope⟩ t.decoder manifest).value s with
  | ok _ => rfl
  | error cause => exact value_toleration action 409 (.alreadyExists action) cause _

theorem deleteObject_value (name : String) (immediate : Bool) (s : Session σ) :
    (deleteObject server t scope name immediate action).value s =
      actionResult 404 action ((server.delete ⟨t.id, scope⟩ t.decoder name immediate).value s) := by
  rw [deleteObject, Run.value_bind]
  cases (server.delete ⟨t.id, scope⟩ t.decoder name immediate).value s with
  | ok _ => rfl
  | error cause => exact value_toleration action 404 (.alreadyDeleted action) cause _

/-- The client reads the reply to the deletion of an object that has a name. -/
theorem value_delete (c : Collection) (d : Json.Decoder α) {name : String} (immediate : Bool)
    (hname : name.isEmpty = false) (s : Session σ) :
    (server.delete c d name immediate).value s =
      match (server.exchange .delete (c.objectPath name) []
        (some (.obj (if immediate then [("gracePeriodSeconds", .int 0)] else [])))).value s with
      | .error cause => .error cause
      | .ok body => (Server.deletion d body).mapError .notDecoded := by
  rw [Server.delete, hname, if_neg Bool.false_ne_true, Run.value_bind]
  cases (server.exchange _ _ _ _).value s with
  | error cause => rfl
  | ok body => rfl

theorem createObject_governed (manifest : Json)
    (hpath : Url.isPlain (Collection.mk t.id scope).path = true) :
    (ActionStep.creation t scope manifest action).Governs server
      (createObject server t scope manifest action) := by
  constructor
  · intro s
    have htells := createObject_tells server s t scope manifest action
    rw [final_create] at htells
    exact (Sends.exchange server hpath .post (some manifest) s).of_tells htells
  · intro s
    rw [createObject_value, Server.create, Run.value_bind, Run.value_pure, Server.value_exchange,
      Server.requestOf, Url.target_of_isPlain hpath]
    rfl

theorem deleteObject_governed {name : String} (immediate : Bool) (hname : name.isEmpty = false)
    (hpath : Url.isPlain ((Collection.mk t.id scope).objectPath name) = true) :
    (ActionStep.deletion t scope name immediate action).Governs server
      (deleteObject server t scope name immediate action) := by
  constructor
  · intro s
    have htells := deleteObject_tells server s t scope name immediate action
    rw [final_delete, hname, if_neg Bool.false_ne_true] at htells
    exact (Sends.exchange server hpath .delete _ s).of_tells htells
  · intro s
    rw [deleteObject_value, value_delete server _ _ immediate hname, Server.value_exchange,
      Server.requestOf, Url.target_of_isPlain hpath]
    rfl

end Objects

namespace ActionStep

variable (p : ActionStep α) (server : Server σ) (s : Session σ)

/-- What the client makes of what comes of the request when the step is taken in `s`. -/
def answerAt : Except ClientError α := p.answer (server.exchanged p.request s)

def DoneAt : Prop := p.Done (server.exchanged p.request s)

variable {p server s} {m : Step σ ActionResult} {cause : ClientError}

theorem Governs.ok_iff (h : p.Governs server m) : m.value s = .ok () ↔ p.DoneAt server s := by
  rw [h.value s]
  exact result_ok_iff

theorem Governs.refused (h : p.Governs server m) (hcause : p.answerAt server s = .error cause)
    (hrefused : ¬p.DoneAt server s) : m.value s = .error ⟨p.action, cause⟩ := by
  rw [h.value s]
  exact result_of_not_done hcause hrefused

theorem answerAt_of_refuses {reply : Reply} {status : Status}
    (hreply : server.exchanged p.request s = .ok reply) (hrefuses : reply.Refuses status)
    (hcode : status.code ≠ p.tolerated) :
    p.answerAt server s = .error (.refused status) ∧ ¬p.DoneAt server s := by
  have hanswer : p.answer (server.exchanged p.request s) = .error (.refused status) :=
    answer_refused_iff.mpr ⟨reply, hreply, hrefuses⟩
  refine ⟨hanswer, ?_⟩
  rw [DoneAt, done_iff_of_error hanswer]
  exact fun hsame => hcode (Option.some.inj hsame)

end ActionStep

/-! ## Two steps -/

/-- From `s` the action `m` takes the first step, which is `m₁`, and when that is done the second.
A step that is refused is named with what the client says, and each tolerates one code only. -/
structure TwoSteps (server : Server σ) (first : ActionStep α) (second : ActionStep β)
    (m₁ m : Step σ ActionResult) (s : Session σ) : Prop where
  ok_iff : m.value s = .ok () ↔ first.DoneAt server s ∧ second.DoneAt server (m₁.final s)
  both : first.DoneAt server s → Sends m s [first.request, second.request]
  only : ¬first.DoneAt server s → Sends m s [first.request]
  first_refused : ∀ cause, first.answerAt server s = .error cause → ¬first.DoneAt server s →
    m.value s = .error ⟨first.action, cause⟩
  second_refused : ∀ cause, first.DoneAt server s →
    second.answerAt server (m₁.final s) = .error cause → ¬second.DoneAt server (m₁.final s) →
    m.value s = .error ⟨second.action, cause⟩
  first_intolerant : ∀ reply status, server.exchanged first.request s = .ok reply →
    reply.Refuses status → status.code ≠ first.tolerated →
    m.value s = .error ⟨first.action, .refused status⟩
  second_intolerant : ∀ reply status, first.DoneAt server s →
    server.exchanged second.request (m₁.final s) = .ok reply → reply.Refuses status →
    status.code ≠ second.tolerated → m.value s = .error ⟨second.action, .refused status⟩

section TwoSteps

variable {server : Server σ} {first : ActionStep α} {second : ActionStep β}
  {m₁ m₂ m : Step σ ActionResult} {s : Session σ}

theorem bothDone_value (m₁ m₂ : Step σ ActionResult) (s : Session σ) :
    (bothDone m₁ m₂).value s =
      match m₁.value s with
      | .ok () => m₂.value (m₁.final s)
      | .error e => .error e := by
  rw [bothDone, Run.value_bind]
  cases m₁.value s with
  | ok _ => rfl
  | error e => rfl

theorem bothDone_twoSteps (h₁ : first.Governs server m₁) (h₂ : second.Governs server m₂)
    (s : Session σ) : TwoSteps server first second m₁ (bothDone m₁ m₂) s := by
  have hdone : first.DoneAt server s → (bothDone m₁ m₂).value s = m₂.value (m₁.final s) := by
    intro h
    rw [bothDone_value, h₁.ok_iff.mpr h]
  have hrefused : ∀ cause, first.answerAt server s = .error cause → ¬first.DoneAt server s →
      (bothDone m₁ m₂).value s = .error ⟨first.action, cause⟩ := by
    intro cause hcause h
    rw [bothDone_value, h₁.refused hcause h]
  have hlater : ∀ cause, first.DoneAt server s →
      second.answerAt server (m₁.final s) = .error cause → ¬second.DoneAt server (m₁.final s) →
      (bothDone m₁ m₂).value s = .error ⟨second.action, cause⟩ := by
    intro cause h hcause hsecond
    rw [hdone h, h₂.refused hcause hsecond]
  constructor
  · by_cases h : first.DoneAt server s
    · rw [hdone h, h₂.ok_iff]
      exact (and_iff_right h).symm
    · have hanswer : ∃ cause, m₁.value s = .error cause := by
        cases hvalue : m₁.value s with
        | ok _ => exact absurd (h₁.ok_iff.mp hvalue) h
        | error e => exact ⟨e, rfl⟩
      obtain ⟨e, he⟩ := hanswer
      rw [bothDone_value, he]
      simp [h]
  · intro h
    refine (h₁.sends s).bind ?_
    rw [h₁.ok_iff.mpr h]
    exact h₂.sends _
  · intro h
    rw [← List.append_nil [first.request]]
    refine (h₁.sends s).bind ?_
    cases hvalue : m₁.value s with
    | ok _ => exact absurd (h₁.ok_iff.mp hvalue) h
    | error e => exact Sends.pure _ _
  · exact hrefused
  · exact hlater
  · intro reply status hreply hrefuses hcode
    obtain ⟨hcause, h⟩ := ActionStep.answerAt_of_refuses hreply hrefuses hcode
    exact hrefused _ hcause h
  · intro reply status h hreply hrefuses hcode
    obtain ⟨hcause, hsecond⟩ := ActionStep.answerAt_of_refuses hreply hrefuses hcode
    exact hlater _ h hcause hsecond

end TwoSteps

/-! ## Nothing left to do -/

/-- The server refuses each request with this code. -/
def Server.AlwaysRefuses (server : Server σ) (code : Nat) : Prop :=
  ∀ r s, ∃ reply status, server.exchanged r s = .ok reply ∧ reply.Refuses status ∧
    status.code = code

/-- However often the action is repeated, it is done each time and sends the same requests. -/
def Repeatable (m : Step σ ActionResult) (requests : List Request) : Prop :=
  ∀ n s, (m.times n).value s = List.replicate n (.ok ()) ∧
    Sends (m.times n) s (List.replicate n requests).flatten

theorem repeatable_of_twoSteps
    {server : Server σ} {first : ActionStep α} {second : ActionStep β}
    {m₁ m : Step σ ActionResult} {code : Nat} (hserver : server.AlwaysRefuses code)
    (hsteps : ∀ s, TwoSteps server first second m₁ m s) (hfirst : first.tolerated = code)
    (hsecond : second.tolerated = code) : Repeatable m [first.request, second.request] := by
  have hdone {γ : Type} (p : ActionStep γ) (hp : p.tolerated = code) (s : Session σ) :
      p.DoneAt server s := by
    obtain ⟨reply, status, hreply, hrefuses, hcode⟩ := hserver p.request s
    exact .inr ⟨reply, status, hreply, hrefuses, hcode.trans hp.symm⟩
  have hok : ∀ s, m.value s = .ok () := fun s =>
    (hsteps s).ok_iff.mpr ⟨hdone first hfirst s, hdone second hsecond _⟩
  have hsends : ∀ s, Sends m s [first.request, second.request] := fun s =>
    (hsteps s).both (hdone first hfirst s)
  exact fun n s => ⟨Step.value_times hok n s, Sends.times hsends n s⟩

/-! ## The probe -/

namespace Probe

/-- The steps that create the probe in a namespace. -/
def claimCreation (scope : String) (storageClass : Option String) : ActionStep Claim :=
  .creation Claim.type (some scope) (Manifest.claim storageClass)
    ("create PVC " ++ scope ++ "/" ++ Manifest.probeClaim)

def podCreation (scope : String) : ActionStep Pod :=
  .creation Pod.type (some scope) Manifest.pod
    ("create pod " ++ scope ++ "/" ++ Manifest.probePod)

/-- The steps that delete the probe in a namespace. -/
def podDeletion (scope : String) : ActionStep (Pod ⊕ Status) :=
  .deletion Pod.type (some scope) Manifest.probePod true
    ("delete pod " ++ scope ++ "/" ++ Manifest.probePod)

def claimDeletion (scope : String) : ActionStep (Claim ⊕ Status) :=
  .deletion Claim.type (some scope) Manifest.probeClaim false
    ("delete PVC " ++ scope ++ "/" ++ Manifest.probeClaim)

section Governed

variable {scope : String} (hscope : Url.isPlain scope = true) (server : Server σ)

include hscope

theorem createClaim_governed (storageClass : Option String) :
    (claimCreation scope storageClass).Governs server (createClaim server scope storageClass) :=
  createObject_governed server _ _ _ _ (claim_plain hscope).path

theorem createPod_governed : (podCreation scope).Governs server (createPod server scope) :=
  createObject_governed server _ _ _ _ (pod_plain hscope).path

theorem deletePod_governed : (podDeletion scope).Governs server (deletePod server scope) :=
  deleteObject_governed server _ _ _ true (by decide) ((pod_plain hscope).objectPath (by decide))

theorem deleteClaim_governed : (claimDeletion scope).Governs server (deleteClaim server scope) :=
  deleteObject_governed server _ _ _ false (by decide)
    ((claim_plain hscope).objectPath (by decide))

end Governed

end Probe

/-- What becomes of the probe in a namespace where some of it may be left behind.  Where all is
there already the creation is repeatable, and the deletion where all is gone. -/
structure ProbeCourse (server : Server σ) (scope : String) (storageClass : Option String) :
    Prop where
  manifests : (∃ claim, Claim.type.decoder (Manifest.claim storageClass) = .ok claim) ∧
    ∃ pod, Pod.type.decoder Manifest.pod = .ok pod
  creation : ∀ s, TwoSteps server (Probe.claimCreation scope storageClass)
    (Probe.podCreation scope) (createClaim server scope storageClass)
    (createProbe server scope storageClass) s
  deletion : ∀ s, TwoSteps server (Probe.podDeletion scope) (Probe.claimDeletion scope)
    (deletePod server scope) (deleteProbe server scope) s
  createdAgain : server.AlwaysRefuses 409 → Repeatable (createProbe server scope storageClass)
    [(Probe.claimCreation scope storageClass).request, (Probe.podCreation scope).request]
  deletedAgain : server.AlwaysRefuses 404 → Repeatable (deleteProbe server scope)
    [(Probe.podDeletion scope).request, (Probe.claimDeletion scope).request]

/-- The probe is created and deleted step by step, up to the first step that is refused. -/
theorem probe_course {scope : String} (hscope : Url.isPlain scope = true) (server : Server σ)
    (storageClass : Option String) : ProbeCourse server scope storageClass := by
  have hcreation (s : Session σ) : TwoSteps server (Probe.claimCreation scope storageClass)
      (Probe.podCreation scope) (createClaim server scope storageClass)
      (createProbe server scope storageClass) s :=
    bothDone_twoSteps (Probe.createClaim_governed hscope server storageClass)
      (Probe.createPod_governed hscope server) s
  have hdeletion (s : Session σ) : TwoSteps server (Probe.podDeletion scope)
      (Probe.claimDeletion scope) (deletePod server scope) (deleteProbe server scope) s :=
    bothDone_twoSteps (Probe.deletePod_governed hscope server)
      (Probe.deleteClaim_governed hscope server) s
  constructor
  · cases storageClass with
    | none => exact ⟨⟨_, rfl⟩, ⟨_, rfl⟩⟩
    | some name => exact ⟨⟨_, rfl⟩, ⟨_, rfl⟩⟩
  · exact hcreation
  · exact hdeletion
  · exact fun hserver => repeatable_of_twoSteps hserver hcreation rfl rfl
  · exact fun hserver => repeatable_of_twoSteps hserver hdeletion rfl rfl

/-- A server that has the claim already and allows no pod, whatever its HTTP statuses say. -/
def crowded : Server Unit where
  answer r :=
    if r.path = "/api/v1/namespaces/e2e-7/persistentvolumeclaims" then
      return .ok ⟨500, Text.Utf8.encode "\x7b\"code\":409\x7d"⟩
    else return .ok ⟨409, Text.Utf8.encode "\x7b\"code\":403,\"message\":\"full\"\x7d"⟩

/-- A server that gives one reply to every request. -/
def Server.repeating (reply : Reply) : Server Unit where
  answer _ := return .ok reply

theorem Server.repeating_alwaysRefuses {reply : Reply} {status : Status}
    (h : reply.content = .error (.refused status)) :
    (repeating reply).AlwaysRefuses status.code := fun _ _ =>
  ⟨reply, status, rfl, Reply.content_eq_refused_iff.mp h, rfl⟩

/-- The reply of a server that has everything already. -/
def occupied : Reply := ⟨409, Text.Utf8.encode "\x7b\"code\":409\x7d"⟩

/-- The reply of a server that has nothing. -/
def vacant : Reply := ⟨404, Text.Utf8.encode "\x7b\"code\":404\x7d"⟩

def crowdedStart : Session Unit := ⟨⟨{}, ()⟩, {}⟩

/-- The claim that is left behind does not stop the creation of the probe, but the refusal of the
pod does, which is told by its own code. Where both are left behind nothing stops the creation, and
where neither is, nothing stops the deletion. -/
theorem crowded_course :
    Url.isPlain "e2e-7" = true ∧ ProbeCourse crowded "e2e-7" (some "gp3") ∧
      (createProbe crowded "e2e-7" (some "gp3")).value crowdedStart =
        .error ⟨"create pod e2e-7/storage-probe",
          .refused { code := 403, message := "full" }⟩ ∧
      ((createProbe (Server.repeating occupied) "e2e-7" none).times 2).value crowdedStart =
        [.ok (), .ok ()] ∧
      ((deleteProbe (Server.repeating vacant) "e2e-7").times 2).value crowdedStart =
        [.ok (), .ok ()] := by
  have hplain : Url.isPlain "e2e-7" = true := by decide
  have hoccupied : occupied.content = .error (.refused { code := 409 }) := by decide +kernel
  have hvacant : vacant.content = .error (.refused { code := 404 }) := by decide +kernel
  have hcreation := (probe_course hplain (Server.repeating occupied) none).createdAgain
    (Server.repeating_alwaysRefuses hoccupied)
  have hdeletion := (probe_course hplain (Server.repeating vacant) none).deletedAgain
    (Server.repeating_alwaysRefuses hvacant)
  refine ⟨hplain, probe_course hplain crowded (some "gp3"), ?_, (hcreation 2 crowdedStart).1,
    (hdeletion 2 crowdedStart).1⟩
  decide +kernel

end ClusterReady

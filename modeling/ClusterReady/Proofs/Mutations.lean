import ClusterReady.Proofs.Frame
import ClusterReady.Proofs.SingleRead

/-!
# Requests that change the cluster

The mutations of a session are the requests that it has sent and that are no reads.  The checks
only read, so they add none; an action adds the one request that it is made of, whatever comes of
it.
-/

namespace ClusterReady

variable {σ α : Type}

/-- Whether a request is anything but a read. -/
def Request.mutates (r : Request) : Bool := r.method ≠ .get

namespace Session

/-- The requests that are no reads, in the order in which they were sent. -/
def mutations (s : Session σ) : List Request :=
  ((s.journal.requests.map (·.request)).filter Request.mutates).reverse

theorem mutations_sent (s : Session σ) (r : Request) :
    (s.sent r).mutations = s.mutations ++ if r.mutates then [r] else [] := by
  cases hr : r.mutates <;> simp [mutations, sent, hr]

end Session

/-- The mutations are no part of the clock or of what a session notes and measures. -/
def mutationView : Session.View σ (List Request) where
  see := Session.mutations
  see_note _ _ := rfl
  see_measured _ _ := rfl
  see_withClock _ _ := rfl

theorem Step.mutations_send (r : Request) (answer : Run (World σ) α) (s : Session σ) :
    ((Step.send r answer).final s).mutations =
      s.mutations ++ if r.mutates then [r] else [] :=
  s.mutations_sent r

/-! ## Reads -/

/-- The step only reads: it sends no mutation. -/
abbrev OnlyReads (m : Step σ α) : Prop := m.Keeps mutationView.see

namespace Server

variable (server : Server σ)

/-- An exchange whose request can be built sends this request, whatever comes of it. -/
theorem exchange_mutations
    (method : Method) (body : Option Json) {path shown : String}
    {query pairs : List (String × String)} (htarget : Url.target path query = some (shown, pairs))
    (s : Session σ) :
    ((server.exchange method path query body).final s).mutations =
      s.mutations ++ if method ≠ .get then [⟨method, shown, pairs, body⟩] else [] := by
  have hrequest : requestOf method path query body = some ⟨method, shown, pairs, body⟩ := by
    rw [requestOf, htarget, Option.map_some]
  have hsent := Step.mutations_send ⟨method, shown, pairs, body⟩
    (server.answer ⟨method, shown, pairs, body⟩) s
  simp only [Request.mutates, decide_eq_true_eq] at hsent
  rw [final_exchange, hrequest]
  exact hsent

end Server

def Check.OnlyReads (c : Check σ) : Prop :=
  ∀ token, ClusterReady.OnlyReads (c.predicate.check token)

theorem Check.runAll_reads {checks : List (Check σ)} (h : ∀ c ∈ checks, c.OnlyReads) :
    ClusterReady.OnlyReads (Check.runAll checks) :=
  Session.View.keeps_runAll fun c hc => h c hc .run

theorem SingleRead.onlyReads {m : Step σ α} {read : Option Request} (h : SingleRead m read) :
    OnlyReads m := by
  intro s
  have hrequests : (m.final s).journal.requests.reverse =
      s.journal.requests.reverse ++ read.toList.map fun r => ⟨s.now, r⟩ := h.requests s
  have hread : ((read.toList.map fun r => (⟨s.now, r⟩ : Sending)).map (·.request)).filter
      Request.mutates = [] := by
    cases read with
    | none => rfl
    | some r => simp [Request.mutates, h.gets r rfl]
  change (m.final s).mutations = s.mutations
  unfold Session.mutations
  rw [← List.filter_reverse, ← List.filter_reverse, ← List.map_reverse, ← List.map_reverse,
    hrequests, List.map_append, List.filter_append, hread, List.append_nil]

theorem Check.ReadsOnce.onlyReads {c : Check σ} (h : c.ReadsOnce) : c.OnlyReads := by
  obtain ⟨read, hread⟩ := h
  exact fun token => (hread token).onlyReads

/-! ## Actions -/

def Collection.creation (c : Collection) (manifest : Json) : Request where
  method := .post
  path := c.path
  body := some manifest

def Collection.deletion (c : Collection) (name : String) (immediate : Bool) : Request where
  method := .delete
  path := c.objectPath name
  body := some (.obj (if immediate then [("gracePeriodSeconds", .int 0)] else []))

theorem Session.Tells.mutations_eq {s t : Session σ} (h : s.Tells t) :
    t.mutations = s.mutations := by
  rw [Session.mutations, h.requests_eq]
  rfl

/-- To create an object sends one mutation, whatever comes of it. -/
theorem createObject_mutations
    {server : Server σ} {t : ResourceType α} {scope : Option String} {manifest : Json}
    {action : String}
    (htarget : Url.target (Collection.mk t.id scope).path [] =
      some ((Collection.mk t.id scope).path, []))
    (s : Session σ) :
    ((createObject server t scope manifest action).final s).mutations =
      s.mutations ++ [(Collection.mk t.id scope).creation manifest] := by
  have hpost : Method.post ≠ .get := by decide
  have hsent := server.exchange_mutations .post (some manifest) htarget s
  rw [if_pos hpost] at hsent
  have htells := createObject_tells server s t scope manifest action
  rw [final_create] at htells
  exact htells.mutations_eq.trans hsent

theorem deleteObject_mutations
    {server : Server σ} {t : ResourceType α} {scope : Option String} {name : String}
    {immediate : Bool} {action : String} (hname : name.isEmpty = false)
    (htarget : Url.target ((Collection.mk t.id scope).objectPath name) [] =
      some ((Collection.mk t.id scope).objectPath name, []))
    (s : Session σ) :
    ((deleteObject server t scope name immediate action).final s).mutations =
      s.mutations ++ [(Collection.mk t.id scope).deletion name immediate] := by
  have hdelete : Method.delete ≠ .get := by decide
  have hsent := server.exchange_mutations .delete
    (some (.obj (if immediate then [("gracePeriodSeconds", .int 0)] else []))) htarget s
  rw [if_pos hdelete] at hsent
  have htells := deleteObject_tells server s t scope name immediate action
  rw [final_delete, hname, if_neg Bool.false_ne_true] at htells
  exact htells.mutations_eq.trans hsent

end ClusterReady

import ClusterReady.Check.Listing
import ClusterReady.Proofs.ConditionLookup
import ClusterReady.Proofs.RecordFields

/-!
# Two readers of the conditions of a node

The check of the nodes decodes a node and asks whether some condition says that it is ready.  The
check of a condition looks into the document itself, for the first entry of the type.  What is
missing or `null` in a document means the same to both, so they differ only on a document with
several entries of one type.
-/

namespace ClusterReady

open ObservedCondition (Lists OfType First reportedStatus text? entries?)

/-! ## A node as it is decoded -/

namespace NodeCondition

theorem shows_type : Json.Shows fields "type" Json.string (·.getD "") type :=
  ⟨⟨_, rfl, fun _ _ => rfl⟩, by simp [fields]⟩

theorem shows_status : Json.Shows fields "status" Json.string (·.getD "") status :=
  ⟨⟨_, rfl, fun _ _ => rfl⟩, by simp [fields]⟩

/-- What the typed reader makes of an entry. -/
def ofEntry (entry : Json) : NodeCondition where
  type := (text? entry "type").getD ""
  status := (text? entry "status").getD ""

theorem eq_ofEntry {j : Json} {c : NodeCondition} (h : decoder j = .ok c) : c = ofEntry j := by
  obtain ⟨type, htype, hshown⟩ := shows_type.of_record rfl h
  obtain ⟨status, hstatus, hshown'⟩ := shows_status.of_record rfl h
  obtain ⟨ctype, cstatus⟩ := c
  rw [ofEntry, NodeCondition.mk.injEq]
  exact ⟨hshown.trans (congrArg (·.getD "") (Json.optional_string htype)),
    hshown'.trans (congrArg (·.getD "") (Json.optional_string hstatus))⟩

end NodeCondition

theorem NodeStatus.shows_conditions :
    Json.Shows fields "conditions" (Json.listOf NodeCondition.decoder) id conditions :=
  ⟨⟨_, rfl, fun _ _ => rfl⟩, by simp [fields]⟩

namespace Node

/-- The conditions of a node; without a status, or without a list in it, there are none. -/
def conditions (n : Node) : List NodeCondition := (n.status.bind (·.conditions)).getD []

theorem isReady_eq (n : Node) :
    n.isReady = n.conditions.any fun c => c.type == "Ready" && c.status == "True" := by
  unfold isReady conditions
  cases n.status <;> rfl

theorem conditions_eq {doc : Json} {n : Node} (h : type.decoder doc = .ok n) :
    n.conditions = ((entries? doc).getD []).map NodeCondition.ofEntry := by
  obtain ⟨status, hstatus, hshown⟩ := ApiObject.shows_status.of_record rfl h
  obtain ⟨found, hfound, hinside⟩ := Json.optional_within hstatus fun j s hs =>
    NodeStatus.shows_conditions.of_record rfl hs
  have hconditions : n.conditions = found.getD [] := by
    rw [conditions, hshown, show found = _ from hinside.symm]
    cases status <;> rfl
  rw [hconditions, ObservedCondition.entries?_eq]
  rcases Json.optional_cases hfound with ⟨rfl, hnone | hnull⟩ | ⟨j, items, hsome, hitems, rfl⟩
  · rw [hnone]
    rfl
  · rw [hnull]
    rfl
  · obtain ⟨docs, rfl, heach⟩ := Json.listOf_eq_ok hitems
    rw [hsome]
    exact Json.eachItem_eq_map (fun _ _ => NodeCondition.eq_ofEntry) heach

end Node

/-! ## The two readers -/

theorem text?_getD_eq_iff {entry : Json} {name text : String} (htext : text ≠ "") :
    (text? entry name).getD "" = text ↔ entry.get? name = some (.str text) := by
  rw [← ObservedCondition.text?_eq_some_iff]
  cases text? entry name with
  | none => simpa using htext.symm
  | some found => simp

/-- To the typed reader a node is ready if any entry says so. -/
theorem Node.isReady_iff_entry {doc : Json} {n : Node} (h : type.decoder doc = .ok n) :
    n.isReady = true ↔ ∃ entries, Lists doc entries ∧ ∃ entry ∈ entries,
      OfType "Ready" entry ∧ entry.get? "status" = some (.str conditionHolds) := by
  have hentry : ∀ entry : Json, ((NodeCondition.ofEntry entry).type == "Ready" &&
      (NodeCondition.ofEntry entry).status == "True") = true ↔
        OfType "Ready" entry ∧ entry.get? "status" = some (.str conditionHolds) := by
    intro entry
    rw [Bool.and_eq_true, beq_iff_eq, beq_iff_eq]
    exact and_congr (text?_getD_eq_iff (by decide)) (text?_getD_eq_iff (by decide))
  simp only [isReady_eq, conditions_eq h, List.any_map, List.any_eq_true, Function.comp_apply,
    hentry]
  cases hentries : entries? doc with
  | none =>
      constructor
      · rintro ⟨entry, hmem, -⟩
        cases hmem
      · rintro ⟨entries, hlists, -⟩
        cases hentries.symm.trans (ObservedCondition.entries?_eq_some_iff.mpr hlists)
  | some entries =>
      have hlists := ObservedCondition.entries?_eq_some_iff.mp hentries
      constructor
      · intro hany
        exact ⟨entries, hlists, hany⟩
      · rintro ⟨others, hothers, hany⟩
        cases hentries.symm.trans (ObservedCondition.entries?_eq_some_iff.mpr hothers)
        exact hany

theorem reportedStatus_eq_holds_iff {entry : Json} :
    reportedStatus entry = conditionHolds ↔
      entry.get? "status" = some (.str conditionHolds) := by
  unfold reportedStatus
  split
  · rename_i status hstatus
    rw [hstatus]
    simp
  · rename_i hother
    constructor
    · intro hunknown
      exact absurd hunknown (by decide)
    · intro hstatus
      exact absurd hstatus (hother _)

/-- No two entries of the conditions are of the same type. -/
def DistinctTypes (doc : Json) : Prop :=
  ∀ entries, Lists doc entries →
    entries.Pairwise fun entry other => ∀ type, OfType type entry → ¬OfType type other

theorem DistinctTypes.first {doc : Json} {entries : List Json} {type : String} {entry : Json}
    (h : DistinctTypes doc) (hlists : Lists doc entries) (hmem : entry ∈ entries)
    (htype : OfType type entry) : First type entries entry := by
  obtain ⟨before, after, hsplit⟩ := List.append_of_mem hmem
  have hdistinct := h entries hlists
  rw [hsplit, List.pairwise_append] at hdistinct
  refine ⟨before, after, hsplit, htype, fun other hother hsame => ?_⟩
  exact hdistinct.2.2 other hother entry List.mem_cons_self type hsame htype

/-- What the two readers say of one document.  Where the condition holds the node is ready, and
where the types are distinct it is ready nowhere else; an object of any kind that is read from the
document is told the same. -/
structure ReadersAgree (doc : Json) (n : Node) : Prop where
  of_holds : evaluateCondition doc "Ready" conditionHolds = .ok () → n.isReady = true
  agree : DistinctTypes doc →
    (n.isReady = true ↔ evaluateCondition doc "Ready" conditionHolds = .ok ())
  dynamic : ∀ o type expected, DynamicObject.decoder doc = .ok o →
    evaluateCondition o.data type expected = evaluateCondition doc type expected

/-- A node that has been decoded is ready as its document says. -/
theorem node_readersAgree {doc : Json} {n : Node} (h : Node.type.decoder doc = .ok n) :
    ReadersAgree doc n := by
  have hholds : evaluateCondition doc "Ready" conditionHolds = .ok () → n.isReady = true := by
    intro hok
    obtain ⟨entries, entry, hlists, hfirst, hstatus⟩ := evaluateCondition_ok_iff.mp hok
    obtain ⟨before, after, hsplit, htype, -⟩ := hfirst
    have hmem : entry ∈ entries := by
      rw [hsplit]
      exact List.mem_append_right before List.mem_cons_self
    exact (Node.isReady_iff_entry h).mpr
      ⟨entries, hlists, entry, hmem, htype, reportedStatus_eq_holds_iff.mp hstatus⟩
  refine ⟨hholds, fun hdistinct => ⟨fun hready => ?_, hholds⟩, fun o type expected ho => ?_⟩
  · obtain ⟨entries, hlists, entry, hmem, htype, hstatus⟩ := (Node.isReady_iff_entry h).mp hready
    exact evaluateCondition_ok_iff.mpr ⟨entries, entry, hlists,
      hdistinct.first hlists hmem htype, reportedStatus_eq_holds_iff.mpr hstatus⟩
  · apply evaluateCondition_congr
    rw [DynamicObject.get?_data ho (by decide)]

/-- A node most of whose fields are missing or `null`, and are read the same way. -/
theorem node_readersAgree_sparse :
    let entries : List Json := [.obj [("type", .null)], .obj [], .obj [("type", .str "Ready"),
      ("status", .str "True")], .obj [("type", .str "DiskPressure"), ("status", .null)]]
    let doc : Json := .obj [("spec", .null), ("status", .obj [("conditions", .arr entries)])]
    ∃ n, Node.type.decoder doc = .ok n ∧ ReadersAgree doc n ∧ DistinctTypes doc ∧
      n.isReady = true := by
  refine ⟨_, rfl, node_readersAgree rfl, ?_, rfl⟩
  intro entries hlists
  cases ObservedCondition.entries?_eq_some_iff.mpr hlists
  simp [OfType, Json.get?, lastEntry]

-- Two entries of one type are read differently: any of them counts for the decoded node, and only
-- the first for the document.
example :
    let entries : List Json := [.obj [("type", .str "Ready"), ("status", .str "False")],
      .obj [("type", .str "Ready"), ("status", .str "True")]]
    let doc : Json := .obj [("status", .obj [("conditions", .arr entries)])]
    (Node.type.decoder doc).map Node.isReady = .ok true ∧
      evaluateCondition doc "Ready" conditionHolds =
        .error (.unsatisfied "Ready=False (want True)") := by
  decide +kernel

end ClusterReady

import ClusterReady.Check.Object
import Mathlib.Logic.Relation
import Mathlib.Tactic.Common

/-!
# The condition that decides

Of the entries in `status.conditions` the first of a type decides what is said of this type.  What
else stands in the document has no say in it: nothing outside of the list, no entry that is not of
the type, and no entry behind the first one that is.
-/

namespace ClusterReady

namespace ObservedCondition

/-- These are the entries of the list `status.conditions` of a document. -/
def Lists (data : Json) (entries : List Json) : Prop :=
  ∃ status, data.get? "status" = some status ∧ status.get? "conditions" = some (.arr entries)

/-- The field `type` of an entry is this text. -/
def OfType (type : String) (entry : Json) : Prop := entry.get? "type" = some (.str type)

/-- The entry is the first of its type. -/
def First (type : String) (entries : List Json) (entry : Json) : Prop :=
  ∃ before after, entries = before ++ entry :: after ∧ OfType type entry ∧
    ∀ other ∈ before, ¬OfType type other

/-- The status that an entry reports. -/
def reportedStatus (entry : Json) : String :=
  match entry.get? "status" with
  | some (.str status) => status
  | _ => "Unknown"

/-- What a field of an entry says, with a lead in front; nothing, where it is not a text. -/
def told (lead name : String) (entry : Json) : String :=
  match entry.get? name with
  | some (.str text) => lead ++ text
  | _ => ""

/-- What an operator is told of an entry whose status is not the expected one. -/
def report (type expected : String) (entry : Json) : String :=
  type ++ "=" ++ reportedStatus entry ++ " (want " ++ expected ++ ")" ++
    told ", reason " "reason" entry ++ told ": " "message" entry

/-! ## Entries as they are read -/

theorem text?_eq_some_iff {entry : Json} {name text : String} :
    text? entry name = some text ↔ entry.get? name = some (.str text) := by
  unfold text?
  constructor
  · intro h
    obtain ⟨value, hvalue, htext⟩ := Option.bind_eq_some_iff.mp h
    cases value <;> cases htext
    exact hvalue
  · intro h
    rw [h]
    rfl

theorem isOfType_iff {type : String} {entry : Json} :
    isOfType type entry = true ↔ OfType type entry := by
  rw [isOfType, beq_iff_eq, text?_eq_some_iff, OfType]

theorem entries?_eq (data : Json) :
    entries? data = ((data.get? "status").bind (·.get? "conditions")).bind Json.asList? := by
  rw [Option.bind_assoc]
  rfl

theorem entries?_eq_some_iff {data : Json} {entries : List Json} :
    entries? data = some entries ↔ Lists data entries := by
  constructor
  · intro h
    obtain ⟨status, hstatus, h⟩ := Option.bind_eq_some_iff.mp h
    obtain ⟨value, hvalue, hlist⟩ := Option.bind_eq_some_iff.mp h
    cases value <;> cases hlist
    exact ⟨status, hstatus, hvalue⟩
  · rintro ⟨status, hstatus, hconditions⟩
    rw [entries?_eq, hstatus, Option.bind_some, hconditions]
    rfl

theorem reportedStatus_eq (entry : Json) : reportedStatus entry = (ofEntry entry).status := by
  unfold reportedStatus ofEntry text?
  cases entry.get? "status" with
  | none => rfl
  | some value => cases value <;> rfl

theorem told_eq (lead name : String) (entry : Json) :
    told lead name entry = match text? entry name with
      | some text => lead ++ text
      | none => "" := by
  unfold told text?
  cases entry.get? name with
  | none => rfl
  | some value => cases value <;> rfl

theorem report_eq (type expected : String) (entry : Json) :
    report type expected entry = (ofEntry entry).mismatch type expected := by
  rw [report, mismatch, reportedStatus_eq, told_eq, told_eq]
  rfl

/-! ## The first entry of a type -/

theorem first_iff {type : String} {entries : List Json} {entry : Json} :
    First type entries entry ↔ entries.find? (isOfType type) = some entry := by
  rw [List.find?_eq_some_iff_append]
  simp only [First, ← isOfType_iff, Bool.not_eq_true', Bool.not_eq_true]
  constructor
  · rintro ⟨before, after, hentries, hentry, hothers⟩
    exact ⟨hentry, before, after, hentries, hothers⟩
  · rintro ⟨hentry, before, after, hentries, hothers⟩
    exact ⟨before, after, hentries, hentry, hothers⟩

/-- A change that the first entry of the type does not notice.  An entry that is not of the type is
put in, taken out or replaced by another one, or anything changes behind one that is. -/
inductive Edit (type : String) : List Json → List Json → Prop
  | insert (before after : List Json) {entry : Json} (h : ¬OfType type entry) :
      Edit type (before ++ after) (before ++ entry :: after)
  | remove (before after : List Json) {entry : Json} (h : ¬OfType type entry) :
      Edit type (before ++ entry :: after) (before ++ after)
  | replace (before after : List Json) {entry other : Json} (h : ¬OfType type entry)
      (hother : ¬OfType type other) :
      Edit type (before ++ entry :: after) (before ++ other :: after)
  | behind (before after others : List Json) {entry : Json} (h : OfType type entry) :
      Edit type (before ++ entry :: after) (before ++ entry :: others)

theorem find?_skip {type : String} {entry : Json} (h : ¬OfType type entry)
    (before after : List Json) :
    (before ++ entry :: after).find? (isOfType type) =
      (before ++ after).find? (isOfType type) := by
  rw [List.find?_append, List.find?_append, List.find?_cons_of_neg (mt isOfType_iff.mp h)]

theorem Edit.find?_eq {type : String} {entries others : List Json} (h : Edit type entries others) :
    others.find? (isOfType type) = entries.find? (isOfType type) := by
  cases h with
  | insert before after h => exact find?_skip h before after
  | remove before after h => exact (find?_skip h before after).symm
  | replace before after h hother => rw [find?_skip h, find?_skip hother]
  | behind before after others h =>
      rw [List.find?_append, List.find?_append, List.find?_cons_of_pos (isOfType_iff.mpr h),
        List.find?_cons_of_pos (isOfType_iff.mpr h)]

theorem find?_eq_of_edits {type : String} {entries others : List Json}
    (h : Relation.ReflTransGen (Edit type) entries others) :
    others.find? (isOfType type) = entries.find? (isOfType type) := by
  induction h with
  | refl => rfl
  | tail _ hedit ih => exact hedit.find?_eq.trans ih

end ObservedCondition

/-! ## The verdict -/

open ObservedCondition

section Verdict

variable {data : Json} {type expected : String} {entries : List Json}

theorem find?_of_lists (h : Lists data entries) :
    find? data type = (entries.find? (isOfType type)).map ofEntry := by
  unfold find?
  rw [entries?_eq_some_iff.mpr h]
  change (entries.find? (isOfType type)).bind (fun entry => some (ofEntry entry)) = _
  cases entries.find? (isOfType type) <;> rfl

theorem evaluateCondition_congr {other : Json}
    (h : (other.get? "status").bind (·.get? "conditions") =
      (data.get? "status").bind (·.get? "conditions")) :
    evaluateCondition other type expected = evaluateCondition data type expected := by
  have hentries : entries? other = entries? data := by
    rw [entries?_eq, entries?_eq, h]
  rw [evaluateCondition, evaluateCondition, find?, find?, hentries]

theorem evaluateCondition_of_first {entry : Json} (h : Lists data entries)
    (hfirst : First type entries entry) : evaluateCondition data type expected =
      if reportedStatus entry = expected then .ok ()
      else .error (.unsatisfied (report type expected entry)) := by
  unfold evaluateCondition
  rw [find?_of_lists h, first_iff.mp hfirst, reportedStatus_eq, report_eq]
  rfl

theorem evaluateCondition_of_none
    (h : ∀ entries, Lists data entries → ∀ entry ∈ entries, ¬OfType type entry) :
    evaluateCondition data type expected =
      .error (.unsatisfied ("condition " ++ type ++ " not reported yet")) := by
  have hnone : find? data type = none := by
    cases hentries : entries? data with
    | none =>
        unfold find?
        rw [hentries]
        rfl
    | some entries =>
        have hlists := entries?_eq_some_iff.mp hentries
        have hskips : entries.find? (isOfType type) = none :=
          List.find?_eq_none.mpr fun entry hentry =>
            mt isOfType_iff.mp (h entries hlists entry hentry)
        rw [find?_of_lists hlists, hskips]
        rfl
  rw [evaluateCondition, hnone]

theorem exists_first {entry : Json} (hmem : entry ∈ entries) (htype : OfType type entry) :
    ∃ first, First type entries first := by
  have hsome : (entries.find? (isOfType type)).isSome = true :=
    List.find?_isSome.mpr ⟨entry, hmem, isOfType_iff.mpr htype⟩
  obtain ⟨first, hfirst⟩ := Option.isSome_iff_exists.mp hsome
  exact ⟨first, first_iff.mpr hfirst⟩

theorem evaluateCondition_ok_iff : evaluateCondition data type expected = .ok () ↔
    ∃ entries entry, Lists data entries ∧ First type entries entry ∧
      reportedStatus entry = expected := by
  constructor
  · intro hok
    by_cases hfound : ∃ entries, Lists data entries ∧ ∃ entry ∈ entries, OfType type entry
    · obtain ⟨entries, hlists, entry, hmem, htype⟩ := hfound
      obtain ⟨first, hfirst⟩ := exists_first hmem htype
      refine ⟨entries, first, hlists, hfirst, ?_⟩
      rw [evaluateCondition_of_first hlists hfirst] at hok
      by_contra hother
      rw [if_neg hother] at hok
      cases hok
    · rw [evaluateCondition_of_none fun entries hlists entry hmem htype =>
        hfound ⟨entries, hlists, entry, hmem, htype⟩] at hok
      cases hok
  · rintro ⟨entries, entry, hlists, hfirst, hstatus⟩
    rw [evaluateCondition_of_first hlists hfirst, if_pos hstatus]

end Verdict

/-- What a document is told of a condition, and what may change without a change of that: all that
is `outside` of the list of conditions, and the list where it is `edited` away from the first entry
of the type. -/
structure DecidedByFirst (data : Json) (type expected : String) : Prop where
  ok_iff : evaluateCondition data type expected = .ok () ↔
    ∃ entries entry, Lists data entries ∧ First type entries entry ∧
      reportedStatus entry = expected
  unreported : (∀ entries, Lists data entries → ∀ entry ∈ entries, ¬OfType type entry) →
    evaluateCondition data type expected =
      .error (.unsatisfied ("condition " ++ type ++ " not reported yet"))
  otherwise : ∀ entries entry, Lists data entries → First type entries entry →
    reportedStatus entry ≠ expected → evaluateCondition data type expected =
      .error (.unsatisfied (report type expected entry))
  outside : ∀ other, (other.get? "status").bind (·.get? "conditions") =
      (data.get? "status").bind (·.get? "conditions") →
    evaluateCondition other type expected = evaluateCondition data type expected
  edited : ∀ other entries others, Lists data entries → Lists other others →
    Relation.ReflTransGen (Edit type) entries others →
    evaluateCondition other type expected = evaluateCondition data type expected

/-- The first entry of its type decides on a condition. -/
theorem evaluateCondition_decidedByFirst (data : Json) (type expected : String) :
    DecidedByFirst data type expected := by
  constructor
  · exact evaluateCondition_ok_iff
  · exact evaluateCondition_of_none
  · intro entries entry hlists hfirst hother
    rw [evaluateCondition_of_first hlists hfirst, if_neg hother]
  · intro other hsame
    exact evaluateCondition_congr hsame
  · intro other entries others hlists hothers hedits
    rw [evaluateCondition, evaluateCondition, find?_of_lists hlists, find?_of_lists hothers,
      find?_eq_of_edits hedits]

-- Of the entries the third is the first of the type.  Its status is not a text, so it is unknown,
-- and the entry behind it does not help.
example :
    let doc : Json := .obj [("status", .obj [("conditions", .arr [.str "Ready", .null,
      .obj [("type", .str "Ready"), ("status", .bool true), ("reason", .str "Odd")],
      .obj [("type", .str "Ready"), ("status", .str "True")]])])]
    evaluateCondition doc "Ready" "True" =
      .error (.unsatisfied "Ready=Unknown (want True), reason Odd") := by
  decide +kernel

end ClusterReady

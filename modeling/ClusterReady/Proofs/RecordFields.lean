import ClusterReady.Api.Resource
import ClusterReady.Proofs.Accepted

/-!
# Fields of records

What is read of a record from a field that may be missing or `null` depends on this field alone:
the reader takes the last entry of its name, and the entries of other names have to be well-formed
but change nothing that it has read.  An object of any kind keeps its fields as they are, and the
objects of a list are read one by one.
-/

namespace ClusterReady

theorem foldl_lastEntry {α : Type} (key : String) (entries : List (String × α))
    (found : Option α) :
    entries.foldl (fun found entry => if entry.1 = key then some entry.2 else found) found =
      (lastEntry key entries).or found := by
  induction entries generalizing found with
  | nil => rfl
  | cons entry entries ih =>
      rw [lastEntry, List.foldl_cons, List.foldl_cons, ih, ih]
      by_cases h : entry.1 = key
      · simp [h]
      · simp [h]

theorem lastEntry_cons {α : Type} (key : String) (entry : String × α)
    (rest : List (String × α)) :
    lastEntry key (entry :: rest) =
      (lastEntry key rest).or (if entry.1 = key then some entry.2 else none) := by
  rw [lastEntry, List.foldl_cons, foldl_lastEntry]

theorem lastEntry_filter {α : Type} {key other : String} (h : key ≠ other)
    (entries : List (String × α)) :
    lastEntry key (entries.filter (·.1 ≠ other)) = lastEntry key entries := by
  induction entries with
  | nil => rfl
  | cons entry rest ih =>
      by_cases hname : entry.1 = other
      · have hkey : entry.1 ≠ key := fun hsame => h (hsame.symm.trans hname)
        rw [lastEntry_cons, if_neg hkey, Option.or_none, ← ih]
        simp [hname]
      · simp only [List.filter_cons, hname, ne_eq, not_false_eq_true, decide_true, if_true,
          lastEntry_cons, ih]

namespace Json

variable {α β γ : Type}

/-- A field leaves alone what is shown of a record. -/
def Keeps (view : α → β) (field : Field α) : Prop :=
  ∀ j put a, field.read j = .ok put → view (put a) = view a

@[simp]
theorem Field.name_optional {name : String} {d : Decoder γ} {put : γ → α → α} :
    (Field.optional name d put).name = name := rfl

@[simp]
theorem keeps_optional {view : α → β} {name : String} {d : Decoder γ} {put : γ → α → α}
    (h : ∀ v a, view (put v a) = view a) : Keeps view (.optional name d put) := by
  intro j put a hread
  obtain ⟨v, -, rfl⟩ := exists_ok_of_map hread
  exact h v a

def optional (d : Decoder γ) : Option Json → Except DecodeFault (Option γ)
  | none => .ok none
  | some j => nullable d j

/-- What is shown of a record comes from the field `key`, and nothing else is said to it. -/
structure Shows (fields : List (Field α)) (key : String) (d : Decoder γ) (mean : Option γ → β)
    (view : α → β) : Prop where
  own : ∃ put, fields.find? (·.name == key) = some (.optional key (nullable d) put) ∧
    ∀ v a, view (put v a) = mean v
  others : ∀ field ∈ fields, field.name ≠ key → Keeps view field

namespace Shows

variable {fields : List (Field α)} {key : String} {d : Decoder γ} {mean : Option γ → β}
  {view : α → β}

/-- The last entry of the name counts; without one, the record is shown as it was. -/
theorem of_eachField (h : Shows fields key d mean view) {checked : List Checked}
    {entries : List (String × Json)} {a b : α}
    (hread : eachField fields checked a entries = .ok b) :
    (lastEntry key entries = none ∧ view b = view a) ∨
      ∃ j v, lastEntry key entries = some j ∧ nullable d j = .ok v ∧ view b = mean v := by
  obtain ⟨put, hown, hput⟩ := h.own
  induction entries generalizing a with
  | nil =>
      cases hread
      exact .inl ⟨rfl, rfl⟩
  | cons entry rest ih =>
      obtain ⟨name, j⟩ := entry
      rw [lastEntry_cons]
      unfold eachField at hread
      cases hfind : fields.find? (·.name == name) with
      | none =>
          have hname : name ≠ key := by
            rintro rfl
            cases hown.symm.trans hfind
          simp only [hfind] at hread
          obtain ⟨-, -, hread⟩ := exists_ok_of_bind hread
          simpa [hname] using ih hread
      | some field =>
          simp only [hfind] at hread
          obtain ⟨change, hfield, hread⟩ := exists_ok_of_bind hread
          rcases ih hread with ⟨hlast, hview⟩ | ⟨j', v, hlast, hv, hview⟩
          · rw [hlast, Option.none_or]
            by_cases hname : name = key
            · subst hname
              cases hown.symm.trans hfind
              obtain ⟨v, hv, rfl⟩ := exists_ok_of_map hfield
              exact .inr ⟨j, v, if_pos rfl, hv, hview.trans (hput v a)⟩
            · have hother : field.name ≠ key := by
                have hsame : field.name = name := by simpa using List.find?_some hfind
                exact fun hkey => hname (hsame.symm.trans hkey)
              have hkept := h.others field (List.mem_of_find?_eq_some hfind) hother
              exact .inl ⟨if_neg hname, hview.trans (hkept j change a hfield)⟩
          · rw [hlast, Option.some_or]
            exact .inr ⟨j', v, rfl, hv, hview⟩

/-- The record shows what its field says, if it starts out as one where this is missing. -/
theorem of_record (h : Shows fields key d mean view) {type : String} {start a : α}
    {checked : List Checked} {j : Json} (hstart : view start = mean none)
    (hread : record type start fields checked j = .ok a) :
    ∃ v, optional d (j.get? key) = .ok v ∧ view a = mean v := by
  cases j with
  | obj entries =>
      rcases h.of_eachField hread with ⟨hlast, hview⟩ | ⟨j, v, hlast, hv, hview⟩
      · exact ⟨none, by rw [get?, hlast, optional], hview.trans hstart⟩
      · exact ⟨v, by rw [get?, hlast, optional, hv], hview⟩
  | _ => cases hread

end Shows

/-! ## Values -/

theorem optional_cases {d : Decoder γ} {o : Option Json} {v : Option γ}
    (h : optional d o = .ok v) :
    (v = none ∧ (o = none ∨ o = some .null)) ∨ ∃ j a, o = some j ∧ d j = .ok a ∧ v = some a := by
  cases o with
  | none =>
      cases h
      exact .inl ⟨rfl, .inl rfl⟩
  | some j =>
      by_cases hnull : j = .null
      · subst hnull
        cases h
        exact .inl ⟨rfl, .inr rfl⟩
      · have hmap : nullable d j = (d j).map some := by
          rw [nullable]
          exact hnull
        cases ha : d j with
        | error fault =>
            rw [optional, hmap, ha] at h
            cases h
        | ok a =>
            rw [optional, hmap, ha] at h
            cases h
            exact .inr ⟨j, a, rfl, ha, rfl⟩

/-- A field of a part, either of which may be missing or `null`. -/
theorem optional_within {d : Decoder γ} {mean : Option γ → β} {part : Decoder α} {view : α → β}
    {key : String} {o : Option Json} {a : Option α} (h : optional part o = .ok a)
    (hpart : ∀ j a, part j = .ok a → ∃ v, optional d (j.get? key) = .ok v ∧ view a = mean v) :
    ∃ v, optional d (o.bind (·.get? key)) = .ok v ∧ a.elim (mean none) view = mean v := by
  rcases optional_cases h with ⟨rfl, rfl | rfl⟩ | ⟨j, a, rfl, ha, rfl⟩
  · exact ⟨none, rfl, rfl⟩
  · exact ⟨none, rfl, rfl⟩
  · exact hpart j a ha

theorem optional_string {o : Option Json} {v : Option String} (h : optional string o = .ok v) :
    v = o.bind asString? := by
  rcases optional_cases h with ⟨rfl, rfl | rfl⟩ | ⟨j, s, rfl, hs, rfl⟩
  · rfl
  · rfl
  · cases j <;> cases hs
    rfl

def asInt32? : Json → Option Int32
  | int n => some (Int32.ofInt n)
  | _ => none

theorem optional_int32 {o : Option Json} {v : Option Int} (h : optional int32 o = .ok v) :
    v = (o.bind asInt32?).map Int32.toInt := by
  rcases optional_cases h with ⟨rfl, rfl | rfl⟩ | ⟨j, n, rfl, hn, rfl⟩
  · rfl
  · rfl
  · cases j with
    | int m =>
        rw [int32, integer] at hn
        split at hn
        · rename_i hrange
          cases hn
          rw [Bool.and_eq_true, decide_eq_true_iff, decide_eq_true_iff, Int32.toInt_minValue,
            Int32.toInt_maxValue] at hrange
          have hkept : (Int32.ofInt n).toInt = n := Int32.toInt_ofInt_of_le hrange.1 (by omega)
          exact congrArg some hkept.symm
        · cases hn
    | _ => cases hn

theorem listOf_eq_ok {d : Decoder α} {j : Json} {items : List α} (h : listOf d j = .ok items) :
    ∃ docs, j = .arr docs ∧ eachItem d docs = .ok items := by
  cases j with
  | arr docs => exact ⟨docs, rfl, h⟩
  | _ => cases h

/-- Where it is known what a decoder reads, it is known what it reads of a list. -/
theorem eachItem_eq_map {d : Decoder α} {read : Json → α} (hread : ∀ j a, d j = .ok a → a = read j)
    {docs : List Json} {items : List α} (h : eachItem d docs = .ok items) :
    items = docs.map read := by
  induction docs generalizing items with
  | nil =>
      cases h
      rfl
  | cons j docs ih =>
      obtain ⟨a, ha, h⟩ := exists_ok_of_bind h
      obtain ⟨rest, hrest, h⟩ := exists_ok_of_bind h
      cases h
      rw [List.map_cons, hread j a ha, ih hrest]

/-- An entry of a record with fixed fields is one of them, which has not come before, or it is read
apart. -/
theorem eachEntry_cons_eq_ok {fields : List (Field α)} {other : String → α → Decoder α} {a b : α}
    {seen : List String} {name : String} {j : Json} {rest : List (String × Json)}
    (h : eachEntry fields other a seen ((name, j) :: rest) = .ok b) :
    (∃ field ∈ fields, field.name = name ∧ name ∉ seen ∧ ∃ put, field.read j = .ok put ∧
      eachEntry fields other (put a) (name :: seen) rest = .ok b) ∨
    ((∀ field ∈ fields, field.name ≠ name) ∧ ∃ next, other name a j = .ok next ∧
      eachEntry fields other next seen rest = .ok b) := by
  unfold eachEntry at h
  split at h
  · rename_i field hfind
    have hname : field.name = name := by simpa using List.find?_some hfind
    split at h
    · cases h
    · rename_i hseen
      obtain ⟨put, hput, hrest⟩ := exists_ok_of_bind h
      exact .inl ⟨field, List.mem_of_find?_eq_some hfind, hname, by simpa using hseen, put, hput,
        hrest⟩
  · rename_i hfind
    obtain ⟨next, hnext, hrest⟩ := exists_ok_of_bind h
    exact .inr ⟨by simpa using hfind, next, hnext, hrest⟩

/-! ## Fields of the parts of an object -/

def textIn (part field : String) (doc : Json) : Option String :=
  ((doc.get? part).bind (·.get? field)).bind asString?

def numberIn (part field : String) (absent : Int32) (doc : Json) : Int32 :=
  (((doc.get? part).bind (·.get? field)).bind asInt32?).getD absent

/-- The name of an object in messages, by its document. -/
def nameIn (doc : Json) : String :=
  (textIn "metadata" "name" doc <|> textIn "metadata" "generateName" doc).getD ""

end Json

namespace ObjectMeta

theorem shows_name : Json.Shows fields "name" Json.string (fun s => s) name :=
  ⟨⟨_, rfl, fun _ _ => rfl⟩, by simp [fields]⟩

theorem shows_generateName :
    Json.Shows fields "generateName" Json.string (fun s => s) generateName :=
  ⟨⟨_, rfl, fun _ _ => rfl⟩, by simp [fields]⟩

end ObjectMeta

namespace ApiObject

variable {Spec Status : Type} {spec : Json.Decoder Spec} {status : Json.Decoder Status}
  {id : ResourceId} {doc : Json} {o : ApiObject Spec Status}

theorem shows_metadata :
    Json.Shows (fields spec status) "metadata" ObjectMeta.decoder (·.getD {}) metadata :=
  ⟨⟨_, rfl, fun _ _ => rfl⟩, by simp [fields]⟩

theorem shows_spec : Json.Shows (fields spec status) "spec" spec (fun s => s) ApiObject.spec :=
  ⟨⟨_, rfl, fun _ _ => rfl⟩, by simp [fields]⟩

theorem shows_status :
    Json.Shows (fields spec status) "status" status (fun s => s) ApiObject.status :=
  ⟨⟨_, rfl, fun _ _ => rfl⟩, by simp [fields]⟩

/-- An object is shown under the name in its document; without one, under the start that its name
is made from. -/
theorem shownName_eq (h : (type id spec status).decoder doc = .ok o) :
    o.metadata.shownName = doc.nameIn := by
  obtain ⟨found, hfound, hshown⟩ := shows_metadata.of_record rfl h
  obtain ⟨v, hv, hname⟩ := Json.optional_within hfound fun j m hm =>
    ObjectMeta.shows_name.of_record rfl hm
  obtain ⟨w, hw, hgenerate⟩ := Json.optional_within hfound fun j m hm =>
    ObjectMeta.shows_generateName.of_record rfl hm
  have hnames : doc.nameIn = (v <|> w).getD "" := by
    rw [Json.nameIn, Json.textIn, Json.textIn, ← Json.optional_string hv, ← Json.optional_string hw]
  rw [hnames, hshown, ObjectMeta.shownName, show v = _ from hname.symm,
    show w = _ from hgenerate.symm]
  cases found <;> rfl

end ApiObject

namespace Json

/-- A number that a part of an object shows is the one in the document of the object. -/
theorem toInt_numberIn {fields : List (Field α)} {checked : List Checked}
    {partFields : List (Field γ)} {partChecked : List Checked} {type partType : String}
    {start a : α} {partStart : γ} {part field : String} {doc : Json} {view : α → Option γ}
    {number : γ → Int} (absent : Int32)
    (hfield : Shows partFields field int32 (·.getD absent.toInt) number)
    (hpart : Shows fields part (record partType partStart partFields partChecked) (fun p => p) view)
    (hstart : view start = none) (hpartStart : number partStart = absent.toInt)
    (h : record type start fields checked doc = .ok a) :
    (view a).elim absent.toInt number = (numberIn part field absent doc).toInt := by
  obtain ⟨found, hfound, hshown⟩ := hpart.of_record hstart h
  obtain ⟨v, hv, hnumber⟩ := optional_within hfound fun j p hp => hfield.of_record hpartStart hp
  rw [hshown, show found.elim absent.toInt number = _ from hnumber, optional_int32 hv, numberIn]
  cases ((doc.get? part).bind (·.get? field)).bind asInt32? <;> rfl

end Json

/-! ## Objects of any kind, and lists of objects -/

namespace DynamicObject

theorem fields_of_keep {name : String} {o p : DynamicObject} {j : Json}
    (h : keep name o j = .ok p) : p.fields = o.fields ++ [(name, j)] := by
  obtain ⟨kept, hkept, h⟩ := exists_ok_of_bind h
  cases h
  unfold Json.anyValue at hkept
  split at hkept
  · cases hkept
  · cases hkept
    rfl

/-- The only field of an object that is not kept. -/
def metadataField : Json.Field DynamicObject :=
  .optional "metadata" ObjectMeta.decoder fun v o => { o with metadata := v }

theorem fields_of_eachEntry {entries : List (String × Json)} {start o : DynamicObject}
    {seen : List String} (h : Json.eachEntry [metadataField] keep start seen entries = .ok o) :
    o.fields = start.fields ++ entries.filter (·.1 ≠ "metadata") := by
  induction entries generalizing start seen with
  | nil =>
      have hfilled : Json.fillAbsent start seen [metadataField] = .ok start := by
        unfold Json.fillAbsent
        split <;> rfl
      cases hfilled.symm.trans h
      exact (List.append_nil _).symm
  | cons entry rest ih =>
      obtain ⟨name, j⟩ := entry
      rcases Json.eachEntry_cons_eq_ok h with
        ⟨field, hfield, hname, -, put, hput, hrest⟩ | ⟨hother, next, hkeep, hrest⟩
      · cases List.mem_singleton.mp hfield
        obtain ⟨v, -, rfl⟩ := exists_ok_of_map hput
        simpa [← hname, metadataField, Json.Field.optional] using ih hrest
      · have hname : name ≠ "metadata" := (hother metadataField List.mem_cons_self).symm
        rw [ih hrest, fields_of_keep hkeep]
        simp [hname]

theorem get?_data {j : Json} {o : DynamicObject} (h : decoder j = .ok o) {key : String}
    (hkey : key ≠ "metadata") : o.data.get? key = j.get? key := by
  cases j with
  | obj entries =>
      have hfields : o.fields = entries.filter (·.1 ≠ "metadata") := fields_of_eachEntry h
      rw [data, Json.get?, Json.get?, hfields, lastEntry_filter hkey]
  | _ => cases h

end DynamicObject

namespace ObjectList

variable {α : Type} {d : Json.Decoder α}

def metadataField : Json.Field (ObjectList α) :=
  .optional "metadata" ListMeta.decoder fun v l => { l with metadata := v }

def itemsField (d : Json.Decoder α) : Json.Field (ObjectList α) :=
  .required "items" (Json.orDefault [] (Json.listOf d)) fun v l => { l with items := v }

/-- Other entries of a list are passed over. -/
def passOver (_ : String) (l : ObjectList α) : Json.Decoder (ObjectList α) := fun j =>
  (Json.anyValue (Json.depthLimit - 1) j).map fun _ => l

theorem items_of_metadata {start : ObjectList α} {j : Json}
    {put : ObjectList α → ObjectList α} (h : (metadataField (α := α)).read j = .ok put) :
    (put start).items = start.items := by
  obtain ⟨v, -, rfl⟩ := exists_ok_of_map h
  rfl

theorem items_of_items {start : ObjectList α} {j : Json} {put : ObjectList α → ObjectList α}
    (h : (itemsField d).read j = .ok put) :
    Json.orDefault [] (Json.listOf d) j = .ok (put start).items := by
  obtain ⟨v, hv, rfl⟩ := exists_ok_of_map h
  exact hv

/-- Once its items have been read a list has no more of them; until then they have to come. -/
theorem items_of_eachEntry {entries : List (String × Json)} {start l : ObjectList α}
    {seen : List String}
    (h : Json.eachEntry [metadataField, itemsField d] passOver start seen entries = .ok l) :
    if "items" ∈ seen then lastEntry "items" entries = none ∧ l.items = start.items
    else ∃ j, lastEntry "items" entries = some j ∧
      Json.orDefault [] (Json.listOf d) j = .ok l.items := by
  induction entries generalizing start seen with
  | nil =>
      by_cases hseen : "items" ∈ seen
      · have hfilled : Json.fillAbsent start seen [metadataField, itemsField d] = .ok start := by
          simp [Json.fillAbsent, metadataField, itemsField, Json.Field.optional,
            Json.Field.required, hseen]
        cases hfilled.symm.trans h
        rw [if_pos hseen]
        exact ⟨rfl, rfl⟩
      · have hfilled : Json.fillAbsent start seen [metadataField, itemsField d] =
            .error (.missingField "items") := by
          simp [Json.fillAbsent, metadataField, itemsField, Json.Field.optional,
            Json.Field.required, hseen]
        cases hfilled.symm.trans h
  | cons entry rest ih =>
      obtain ⟨name, j⟩ := entry
      rcases Json.eachEntry_cons_eq_ok h with
        ⟨field, hfield, rfl, hnew, put, hput, hrest⟩ | ⟨hother, next, hnext, hrest⟩
      · have hlater := ih hrest
        simp only [List.mem_cons, List.not_mem_nil, or_false] at hfield
        rcases hfield with rfl | rfl
        · rw [items_of_metadata hput] at hlater
          simpa [lastEntry_cons, metadataField, Json.Field.optional] using hlater
        · -- these are the items, and they do not come again
          have hcome : "items" ∈ (itemsField d).name :: seen := List.mem_cons_self
          rw [if_pos hcome] at hlater
          refine (if_neg hnew).mpr ⟨j, ?_, hlater.2 ▸ items_of_items hput⟩
          rw [lastEntry_cons, hlater.1]
          rfl
      · have hname : name ≠ "items" := (hother (itemsField d) (by simp)).symm
        obtain ⟨kept, -, rfl⟩ := exists_ok_of_map hnext
        rw [lastEntry_cons, if_neg hname, Option.or_none]
        exact ih hrest

def documents (reply : Json) : List Json := ((reply.get? "items").bind Json.asList?).getD []

theorem eachItem_of_decoder {reply : Json} {l : ObjectList α} (h : decoder d reply = .ok l) :
    Json.eachItem d (documents reply) = .ok l.items := by
  cases reply with
  | obj entries =>
      have hitems := items_of_eachEntry h
      rw [if_neg List.not_mem_nil] at hitems
      obtain ⟨j, hlast, hread⟩ := hitems
      rw [documents, Json.get?, hlast]
      cases j with
      | null => exact congrArg Except.ok (Except.ok.inj hread)
      | arr docs => exact hread
      | _ => cases hread
  | _ => cases h

end ObjectList

end ClusterReady

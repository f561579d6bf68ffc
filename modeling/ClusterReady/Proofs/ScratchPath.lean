import ClusterReady.Suite.Run
import Mathlib.Data.List.TakeWhile

/-!
# Paths into a scratch namespace

The name of a scratch namespace has letters, digits and dashes only, so every path that is made
with it can be the target of a request and stays as it is.
-/

namespace ClusterReady

namespace Url

def isPlainChar (c : Char) : Bool := Address.isPathChar c && c != '?' && c != '#'

/-- A text that goes into the path of a request as it is. -/
def isPlain (text : String) : Bool := text.toList.all isPlainChar

@[simp] theorem isPlain_append (a b : String) : isPlain (a ++ b) = (isPlain a && isPlain b) := by
  simp [isPlain, List.all_append]

/-- A plain path is the target of a request as it is. -/
theorem target_of_isPlain {path : String} (h : isPlain path = true)
    (query : List (String × String)) : target path query = some (path, query) := by
  have hchar : ∀ c ∈ path.toList, isPlainChar c = true := List.all_eq_true.mp h
  have hhead : path.toList.takeWhile (fun c => c != '?' && c != '#') = path.toList := by
    rw [List.takeWhile_eq_self_iff]
    intro c hc
    have hplain := hchar c hc
    simp only [isPlainChar, Bool.and_eq_true] at hplain
    simp only [Bool.and_eq_true]
    exact ⟨hplain.1.2, hplain.2⟩
  have hall : path.toList.all Address.isPathChar = true := by
    rw [List.all_eq_true]
    intro c hc
    have hplain := hchar c hc
    simp only [isPlainChar, Bool.and_eq_true] at hplain
    exact hplain.1.1
  simp only [target, hhead, hall, Bool.not_true, Bool.false_eq_true, if_false, List.drop_length]

end Url

namespace ResourceId

/-- The names that the API has for a kind are plain. -/
structure Plain (r : ResourceId) : Prop where
  group : Url.isPlain r.group = true
  version : Url.isPlain r.version = true
  plural : Url.isPlain r.plural = true

theorem Plain.apiVersion {r : ResourceId} (h : r.Plain) : Url.isPlain r.apiVersion = true := by
  have hslash : Url.isPlain "/" = true := by decide
  unfold ResourceId.apiVersion
  by_cases hcore : r.group.isEmpty = true
  · simp only [hcore, if_true, h.version]
  · simp only [hcore, Bool.false_eq_true, if_false, Url.isPlain_append, h.group, hslash,
      h.version, Bool.and_true]

end ResourceId

namespace Collection

/-- The names that the path of a collection is made of are plain. -/
structure Plain (c : Collection) : Prop where
  resource : c.resource.Plain
  scope : ∀ name, c.scope = some name → Url.isPlain name = true

theorem Plain.path {c : Collection} (h : c.Plain) : Url.isPlain c.path = true := by
  have hroot : Url.isPlain (if c.resource.group.isEmpty then "/api/" else "/apis/") = true := by
    by_cases hcore : c.resource.group.isEmpty = true
    · rw [if_pos hcore]
      decide
    · rw [if_neg hcore]
      decide
  have hslash : Url.isPlain "/" = true := by decide
  have hversion := h.resource.apiVersion
  have hplural := h.resource.plural
  unfold Collection.path
  cases hscope : c.scope with
  | none =>
      simp only [Url.isPlain_append, hroot, hversion, hslash, hplural, Bool.and_true]
      decide
  | some name =>
      have hplace : Url.isPlain "namespaces/" = true := by decide
      simp only [Url.isPlain_append, hroot, hversion, hslash, hplace, h.scope name hscope,
        hplural, Bool.and_true]

theorem Plain.objectPath {c : Collection} (h : c.Plain) {name : String}
    (hname : Url.isPlain name = true) : Url.isPlain (c.objectPath name) = true := by
  have hslash : Url.isPlain "/" = true := by decide
  simp only [Collection.objectPath, Url.isPlain_append, h.path, hslash, hname, Bool.and_true]

end Collection

theorem isLabelChar_cases {c : Char} (h : isLabelChar c = true) :
    c.isUpper = true ∨ c.isLower = true ∨ c.isDigit = true ∨ c = '-' := by
  rcases (Bool.or_eq_true c.isAlphanum (c == '-')).mp h with halphanum | hdash
  · rcases (Bool.or_eq_true c.isAlpha c.isDigit).mp halphanum with halpha | hdigit
    · rcases (Bool.or_eq_true c.isUpper c.isLower).mp halpha with hupper | hlower
      · exact .inl hupper
      · exact .inr (.inl hlower)
    · exact .inr (.inr (.inl hdigit))
  · exact .inr (.inr (.inr (beq_iff_eq.mp hdash)))

theorem toNat_of_isLabelChar {c : Char} (h : isLabelChar c = true) :
    c.toNat = 45 ∨ (48 ≤ c.toNat ∧ c.toNat ≤ 57) ∨ (65 ≤ c.toNat ∧ c.toNat ≤ 90) ∨
      (97 ≤ c.toNat ∧ c.toNat ≤ 122) := by
  rcases isLabelChar_cases h with hupper | hlower | hdigit | rfl
  · exact Or.inr (Or.inr (Or.inl (of_decide_eq_true hupper)))
  · obtain ⟨hlow, hhigh⟩ := (Bool.and_eq_true _ _).mp hlower
    have hrange := And.intro (of_decide_eq_true hlow) (of_decide_eq_true hhigh)
    exact Or.inr (Or.inr (Or.inr hrange))
  · obtain ⟨hlow, hhigh⟩ := (Bool.and_eq_true _ _).mp hdigit
    have hrange := And.intro (of_decide_eq_true hlow) (of_decide_eq_true hhigh)
    exact Or.inr (Or.inl hrange)
  · exact Or.inl rfl

theorem isPlainChar_of_isLabelChar {c : Char} (h : isLabelChar c = true) :
    Url.isPlainChar c = true := by
  have hcode := toNat_of_isLabelChar h
  have hne : ∀ d : Char, c.toNat ≠ d.toNat → (c != d) = true := by
    intro d hd
    rw [bne_iff_ne]
    rintro rfl
    exact hd rfl
  simp only [Url.isPlainChar, Address.isPathChar, Bool.and_eq_true, decide_eq_true_eq]
  refine ⟨⟨⟨⟨⟨?_, hne '<' ?_⟩, hne '>' ?_⟩, ?_⟩, hne '?' ?_⟩, hne '#' ?_⟩
  · omega
  · have : '<'.toNat = 60 := rfl
    omega
  · have : '>'.toNat = 62 := rfl
    omega
  · rw [bne_iff_ne]
    omega
  · have : '?'.toNat = 63 := rfl
    omega
  · have : '#'.toNat = 35 := rfl
    omega

theorem mem_of_mem_trimDashes {c : Char} {cs : List Char} (h : c ∈ trimDashes cs) : c ∈ cs := by
  unfold trimDashes at h
  have hback := List.dropWhile_subset _ (List.mem_reverse.mp h)
  exact List.dropWhile_subset _ (List.mem_reverse.mp hback)

/-- A scratch name has nothing but letters, digits and dashes. -/
theorem isLabelChar_of_mem_scratchName {stem : String} {stamp : Stamp} {c : Char}
    (h : c ∈ (scratchName stem stamp).toList) : isLabelChar c = true := by
  unfold scratchName at h
  rw [String.toList_ofList] at h
  have htaken := List.mem_of_mem_take (mem_of_mem_trimDashes h)
  exact (List.mem_filter.mp htaken).2

theorem isPlain_scratchName (stem : String) (stamp : Stamp) :
    Url.isPlain (scratchName stem stamp) = true := by
  unfold Url.isPlain
  rw [List.all_eq_true]
  intro c hc
  exact isPlainChar_of_isLabelChar (isLabelChar_of_mem_scratchName hc)

theorem mem_dropWhile_of_not {α : Type} {p : α → Bool} {l : List α} {a : α}
    (ha : a ∈ l) (hp : p a = false) : a ∈ l.dropWhile p := by
  rw [← List.takeWhile_append_dropWhile (p := p) (l := l), List.mem_append] at ha
  rcases ha with htaken | hleft
  · have htrue := List.mem_takeWhile_imp htaken
    rw [hp] at htrue
    cases htrue
  · exact hleft

theorem mem_trimDashes_of_ne {c : Char} {cs : List Char} (hmem : c ∈ cs) (hc : c ≠ '-') :
    c ∈ trimDashes cs := by
  have hdash : (c == '-') = false := beq_false_of_ne hc
  have hfront : c ∈ cs.dropWhile (· == '-') := mem_dropWhile_of_not hmem hdash
  have hback : c ∈ (cs.dropWhile (· == '-')).reverse.dropWhile (· == '-') :=
    mem_dropWhile_of_not (List.mem_reverse.mpr hfront) hdash
  exact List.mem_reverse.mpr hback

theorem scratchName_not_isEmpty (stamp : Stamp) :
    (scratchName scratchStem stamp).isEmpty = false := by
  have hstem : (Text.lower scratchStem).toList = ['e', '2', 'e'] := by decide
  have hkept : 'e' ∈ (((Text.lower scratchStem ++ "-" ++ stamp.text).toList.filter
      isLabelChar).take longestLabel) := by
    have he : isLabelChar 'e' = true := by decide
    simp only [String.toList_append, hstem, List.cons_append, List.filter_cons, he, if_true]
    exact List.mem_cons_self
  have hmem : 'e' ∈ (scratchName scratchStem stamp).toList := by
    unfold scratchName
    rw [String.toList_ofList]
    exact mem_trimDashes_of_ne hkept (by decide)
  cases hempty : (scratchName scratchStem stamp).isEmpty with
  | false => rfl
  | true =>
      rw [String.isEmpty_iff.mp hempty] at hmem
      cases hmem

end ClusterReady

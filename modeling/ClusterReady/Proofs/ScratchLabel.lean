import ClusterReady.Proofs.Digits
import ClusterReady.Proofs.ScratchPath
import Mathlib.Data.List.DropRight

/-!
# Scratch names as labels

A label has 1 to 63 characters, which are small letters, digits and dashes, and no dash at its ends.
A scratch name is a label unless it is empty, and it is empty exactly when its stem fills the whole
of it with dashes: the stamp behind them is cut off, and then they are trimmed away.
-/

namespace ClusterReady

/-! ## Lower case -/

namespace Text

/-- No letter has its lower case among the first capital letters, or before them. -/
theorem caseRuns_beyond : ∀ r ∈ caseRuns, 90 < (r.first : Int) + r.shift := by
  decide +kernel

theorem isUpper_eq_false_of_lt {c : Char} (h : 90 < c.toNat) : c.isUpper = false := by
  have hhigh : ¬c.toNat ≤ 90 := Nat.not_le.mpr h
  exact decide_eq_false fun hrange => hhigh hrange.2

theorem isUpper_ofNat {n : Nat} (h : 90 < n) : (Char.ofNat n).isUpper = false := by
  by_cases hvalid : n.isValidChar
  · apply isUpper_eq_false_of_lt
    rw [Char.ofNat, dif_pos hvalid]
    exact h
  · rw [Char.ofNat, dif_neg hvalid]
    rfl

theorem isUpper_toLower {c : Char} (h : c.toNat < 0x80) : c.toLower.isUpper = false := by
  have hall : ∀ n < 0x80, (Char.ofNat n).toLower.isUpper = false := by decide
  have hc := hall c.toNat h
  rw [Char.ofNat_toNat] at hc
  exact hc

theorem isUpper_of_mem_lowerChar {c d : Char} (h : d ∈ lowerChar c) : d.isUpper = false := by
  unfold lowerChar at h
  by_cases hascii : c.toNat < 0x80
  · rw [if_pos hascii, List.mem_singleton] at h
    rw [h, isUpper_toLower hascii]
  · rw [if_neg hascii] at h
    by_cases hdotted : c.toNat = 0x130
    · rw [if_pos hdotted] at h
      rcases List.mem_pair.mp h with rfl | rfl
      · decide
      · decide
    · rw [if_neg hdotted] at h
      cases hrun : caseRuns.find? (·.contains c.toNat) with
      | none =>
          rw [hrun] at h
          rw [List.mem_singleton.mp h]
          apply isUpper_eq_false_of_lt
          omega
      | some run =>
          rw [hrun] at h
          rw [List.mem_singleton.mp h]
          have hbeyond := caseRuns_beyond run (List.mem_of_find?_eq_some hrun)
          have hcontains := List.find?_some hrun
          simp only [CaseRun.contains, Bool.and_eq_true, decide_eq_true_eq] at hcontains
          have hfirst : run.first ≤ c.toNat := hcontains.1.1
          apply isUpper_ofNat
          omega

theorem isUpper_of_mem_lowerFrom {before cs : List Char} {d : Char}
    (h : d ∈ lowerFrom before cs) : d.isUpper = false := by
  induction cs generalizing before with
  | nil => cases h
  | cons c rest ih =>
      rw [lowerFrom, List.mem_append] at h
      rcases h with hfront | hrest
      · by_cases hsigma : c.toNat = 0x3A3
        · rw [if_pos hsigma] at hfront
          by_cases hfinal : (cased? before && !cased? rest) = true
          · rw [if_pos hfinal, List.mem_singleton] at hfront
            rw [hfront]
            decide
          · rw [if_neg hfinal, List.mem_singleton] at hfront
            rw [hfront]
            decide
        · rw [if_neg hsigma] at hfront
          exact isUpper_of_mem_lowerChar hfront
      · exact ih hrest

/-- No capital letter from A to Z is left in the lower case of a text. -/
theorem isUpper_of_mem_lower {s : String} {c : Char} (h : c ∈ (lower s).toList) :
    c.isUpper = false := by
  rw [lower, String.toList_ofList] at h
  exact isUpper_of_mem_lowerFrom h

end Text

/-! ## The stamp -/

namespace Stamp

theorem isDigit_of_mem_padded {width n : Nat} {c : Char} (h : c ∈ (padded width n).toList) :
    c.isDigit = true := by
  rw [padded, String.toList_ofList, List.mem_append] at h
  rcases h with hzero | hdigit
  · rw [(List.mem_replicate.mp hzero).2]
    decide
  · exact isDigit_of_mem_toDigits hdigit

theorem isDigit_of_mem_clockText {s : Stamp} {c : Char} (h : c ∈ s.clockText.toList) :
    c.isDigit = true := by
  simp only [clockText, String.toList_append, List.mem_append] at h
  rcases h with ((hhour | hminute) | hsecond) | hmilli
  · exact isDigit_of_mem_padded hhour
  · exact isDigit_of_mem_padded hminute
  · exact isDigit_of_mem_padded hsecond
  · exact isDigit_of_mem_padded hmilli

theorem toList_text (s : Stamp) :
    s.text.toList = Nat.toDigits 10 s.process.toNat ++ '-' :: s.clockText.toList := by
  have hdash : "-".toList = ['-'] := by decide
  rw [text, String.toList_append, String.toList_append, Nat.toString_eq_ofList_toDigits,
    String.toList_ofList, hdash, List.append_assoc]
  rfl

theorem mem_text {s : Stamp} {c : Char} (h : c ∈ s.text.toList) : c.isDigit = true ∨ c = '-' := by
  rw [toList_text, List.mem_append, List.mem_cons] at h
  rcases h with hprocess | hdash | hclock
  · exact .inl (isDigit_of_mem_toDigits hprocess)
  · exact .inr hdash
  · exact .inl (isDigit_of_mem_clockText hclock)

theorem exists_text_eq_cons (s : Stamp) :
    ∃ c rest, s.text.toList = c :: rest ∧ c.isDigit = true := by
  obtain ⟨c, rest, hdigits, hc⟩ := exists_toDigits_eq_cons s.process.toNat
  refine ⟨c, rest ++ '-' :: s.clockText.toList, ?_, hc⟩
  rw [toList_text, hdigits, List.cons_append]

end Stamp

/-! ## What a name is cut from -/

/-- The characters of a stem that a scratch name may hold. -/
def keptStem (stem : String) : List Char := (Text.lower stem).toList.filter isLabelChar

/-- The kept part of the stem, a dash and the stamp. -/
def wholeName (stem : String) (s : Stamp) : List Char := keptStem stem ++ '-' :: s.text.toList

/-- Of the lower case of a character a scratch name holds at most one. -/
theorem length_filter_lowerChar_le (c : Char) :
    ((Text.lowerChar c).filter isLabelChar).length ≤ 1 := by
  have hone : ∀ d : Char, ([d].filter isLabelChar).length ≤ 1 := fun d =>
    List.length_filter_le isLabelChar [d]
  unfold Text.lowerChar
  split
  · exact hone _
  · split
    · decide
    · split
      · exact hone _
      · exact hone _

theorem length_keptStem_le (stem : String) : (keptStem stem).length ≤ stem.length := by
  have hfrom : ∀ cs before, ((Text.lowerFrom before cs).filter isLabelChar).length ≤ cs.length := by
    intro cs
    induction cs with
    | nil => exact fun _ => Nat.le_refl 0
    | cons c rest ih =>
        intro before
        rw [Text.lowerFrom, List.filter_append, List.length_append, List.length_cons,
          Nat.add_comm rest.length]
        apply Nat.add_le_add _ (ih (c :: before))
        split
        · split
          · decide
          · decide
        · exact length_filter_lowerChar_le c
  rw [keptStem, Text.lower, String.toList_ofList, ← String.length_toList]
  exact hfrom stem.toList []

theorem isLabelChar_of_isDigit {c : Char} (h : c.isDigit = true) : isLabelChar c = true := by
  simp [isLabelChar, Char.isAlphanum, h]

theorem toList_scratchName (stem : String) (s : Stamp) :
    (scratchName stem s).toList = trimDashes ((wholeName stem s).take longestLabel) := by
  have hdash : "-".toList = ['-'] := by decide
  have htext : s.text.toList.filter isLabelChar = s.text.toList := by
    rw [List.filter_eq_self]
    intro c hc
    rcases Stamp.mem_text hc with hdigit | rfl
    · exact isLabelChar_of_isDigit hdigit
    · rfl
  have hkept : (Text.lower stem ++ "-" ++ s.text).toList.filter isLabelChar = wholeName stem s := by
    rw [String.toList_append, String.toList_append, List.filter_append, List.filter_append, htext,
      hdash, List.append_assoc]
    rfl
  rw [scratchName, String.toList_ofList, hkept]

theorem mem_wholeName {stem : String} {s : Stamp} {c : Char} (h : c ∈ wholeName stem s) :
    c.isLower = true ∨ c.isDigit = true ∨ c = '-' := by
  rw [wholeName, List.mem_append, List.mem_cons] at h
  rcases h with hstem | hdash | htext
  · obtain ⟨hlower, hlabel⟩ := List.mem_filter.mp hstem
    have hsmall := Text.isUpper_of_mem_lower hlower
    rcases isLabelChar_cases hlabel with hupper | hothers
    · rw [hsmall] at hupper
      cases hupper
    · exact hothers
  · exact .inr (.inr hdash)
  · exact .inr (Stamp.mem_text htext)

/-! ## Trimming -/

theorem trimDashes_eq (cs : List Char) :
    trimDashes cs = (cs.dropWhile (· == '-')).rdropWhile (· == '-') := rfl

theorem head?_trimDashes (cs : List Char) : (trimDashes cs).head? ≠ some '-' := by
  intro hhead
  obtain ⟨rest, hrest⟩ := List.head?_eq_some_iff.mp hhead
  obtain ⟨more, hmore⟩ := List.rdropWhile_prefix (· == '-') (cs.dropWhile (· == '-'))
  rw [← trimDashes_eq, hrest, List.cons_append] at hmore
  have hfront := List.head?_dropWhile_not (· == '-') cs
  rw [← hmore, List.head?_cons] at hfront
  cases hfront

theorem getLast?_trimDashes (cs : List Char) : (trimDashes cs).getLast? ≠ some '-' := by
  intro hlast
  have hsome : trimDashes cs ≠ [] := by
    intro hnil
    rw [hnil] at hlast
    cases hlast
  have hback := List.rdropWhile_last_not (· == '-') (cs.dropWhile (· == '-')) hsome
  rw [List.getLast?_eq_some_getLast hsome] at hlast
  exact hback (beq_iff_eq.mpr (Option.some.inj hlast))

theorem length_trimDashes_le (cs : List Char) : (trimDashes cs).length ≤ cs.length := by
  rw [trimDashes_eq]
  exact (List.rdropWhile_prefix _ _).length_le.trans (List.dropWhile_suffix _).length_le

theorem trimDashes_eq_nil_iff {cs : List Char} : trimDashes cs = [] ↔ ∀ c ∈ cs, c = '-' := by
  constructor
  · intro hnil c hc
    by_contra hne
    have hmem := mem_trimDashes_of_ne hc hne
    rw [hnil] at hmem
    cases hmem
  · intro hdashes
    by_contra hsome
    obtain ⟨c, rest, hcons⟩ := List.exists_cons_of_ne_nil hsome
    have hc : c ∈ trimDashes cs := hcons ▸ List.mem_cons_self
    apply head?_trimDashes cs
    rw [hcons, hdashes c (mem_of_mem_trimDashes hc), List.head?_cons]

/-! ## Labels -/

/-- A label of a domain name. -/
structure IsLabel (name : String) : Prop where
  one_le_length : 1 ≤ name.length
  length_le : name.length ≤ 63
  chars : ∀ c ∈ name.toList, c.isLower = true ∨ c.isDigit = true ∨ c = '-'
  front : name.toList.head? ≠ some '-'
  back : name.toList.getLast? ≠ some '-'

/-- The stem is long enough to keep the stamp out of a name, and has nothing but dashes up to
there. -/
def FillsWithDashes (stem : String) : Prop :=
  longestLabel ≤ (keptStem stem).length + 1 ∧ ∀ c ∈ (keptStem stem).take longestLabel, c = '-'

instance (stem : String) : Decidable (FillsWithDashes stem) :=
  -- The characters of the name are tried, and not every character there is.
  haveI : Decidable (∀ c ∈ (keptStem stem).take longestLabel, c = '-') := List.decidableBAll _ _
  inferInstanceAs (Decidable (_ ∧ _))

/-- A name that is not empty is a label. -/
theorem isLabel_scratchName_iff {stem : String} {s : Stamp} :
    IsLabel (scratchName stem s) ↔ scratchName stem s ≠ "" := by
  have hlist := toList_scratchName stem s
  constructor
  · intro h hempty
    have hlength := h.one_le_length
    rw [hempty] at hlength
    exact absurd hlength (by decide)
  · intro hsome
    constructor
    · rw [Nat.one_le_iff_ne_zero, ← String.length_toList]
      exact fun hzero => hsome (String.toList_eq_nil_iff.mp (List.length_eq_zero_iff.mp hzero))
    · rw [← String.length_toList, hlist]
      exact (length_trimDashes_le _).trans (List.length_take_le longestLabel _)
    · intro c hc
      rw [hlist] at hc
      exact mem_wholeName (List.mem_of_mem_take (mem_of_mem_trimDashes hc))
    · rw [hlist]
      exact head?_trimDashes _
    · rw [hlist]
      exact getLast?_trimDashes _

theorem scratchName_eq_empty_iff {stem : String} {s : Stamp} :
    scratchName stem s = "" ↔ FillsWithDashes stem := by
  rw [← String.toList_eq_nil_iff, toList_scratchName, trimDashes_eq_nil_iff, wholeName,
    List.take_append]
  obtain ⟨d, rest, htext, hd⟩ := s.exists_text_eq_cons
  by_cases hlong : longestLabel ≤ (keptStem stem).length + 1
  · have hback : ∀ c ∈ ('-' :: s.text.toList).take (longestLabel - (keptStem stem).length),
        c = '-' := by
      intro c hc
      have hone : longestLabel - (keptStem stem).length ≤ 1 := by omega
      have hmem := List.take_subset_take_left _ hone hc
      exact List.mem_singleton.mp hmem
    simp only [List.forall_mem_append, FillsWithDashes, hlong, true_and]
    exact and_iff_left hback
  · have hdigit : d ∈ ('-' :: s.text.toList).take (longestLabel - (keptStem stem).length) := by
      have hroom : longestLabel - (keptStem stem).length =
          longestLabel - 2 - (keptStem stem).length + 1 + 1 := by omega
      rw [hroom, htext, List.take_succ_cons, List.take_succ_cons]
      exact List.mem_cons_of_mem _ List.mem_cons_self
    constructor
    · intro hdashes
      have hdash := hdashes d (List.mem_append_right _ hdigit)
      rw [hdash] at hd
      exact absurd hd (by decide)
    · intro hfills
      exact absurd hfills.1 hlong

/-- When the scratch name of a stem is a label, and what it is otherwise.  A stem of no more than
61 characters leaves room for a digit of the stamp, and so does the one that the storage scenario
has. -/
structure LabelVerdict (stem : String) (s : Stamp) : Prop where
  label_iff : IsLabel (scratchName stem s) ↔ ¬FillsWithDashes stem
  empty_iff : scratchName stem s = "" ↔ FillsWithDashes stem
  short : stem.length ≤ 61 → IsLabel (scratchName stem s)
  scenario : stem = scratchStem → IsLabel (scratchName stem s)

/-- A scratch name is a label unless its stem fills the whole of it with dashes. -/
theorem scratchName_label (stem : String) (s : Stamp) : LabelVerdict stem s := by
  have hlabel : IsLabel (scratchName stem s) ↔ ¬FillsWithDashes stem :=
    isLabel_scratchName_iff.trans (not_congr scratchName_eq_empty_iff)
  have hshort : stem.length ≤ 61 → IsLabel (scratchName stem s) := by
    intro hlength
    apply hlabel.mpr
    intro hfills
    have hkept := length_keptStem_le stem
    have hlong := hfills.1
    unfold longestLabel at hlong
    omega
  constructor
  · exact hlabel
  · exact scratchName_eq_empty_iff
  · exact hshort
  · rintro rfl
    exact hshort (by decide)

/-- A stem of 63 dashes. -/
def dashes : String := String.ofList (List.replicate 63 '-')

/-- Nothing is left of the name of a scratch namespace whose stem has dashes only and is as long as
a label may be. -/
theorem dashes_noLabel :
    scratchName dashes ⟨4242, 45296789⟩ = "" ∧ ¬IsLabel (scratchName dashes ⟨4242, 45296789⟩) := by
  have hempty : scratchName dashes ⟨4242, 45296789⟩ = "" :=
    scratchName_eq_empty_iff.mpr (by decide +kernel)
  refine ⟨hempty, ?_⟩
  rw [isLabel_scratchName_iff]
  exact fun hsome => hsome hempty

end ClusterReady

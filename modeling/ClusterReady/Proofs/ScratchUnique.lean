import ClusterReady.Proofs.ScratchLabel
import Mathlib.Algebra.Ring.Nat

/-!
# Scratch names of different stamps

A scratch name is cut at its end, which is where the stamp stands. So two stamps have one name
exactly when they agree as far as the name has room for them, and that room is what the stem leaves
of the greatest length. No stamp is longer than 20 characters, and a stem of which at most 42
characters are kept gives every stamp a name of its own.
-/

namespace ClusterReady

/-! ## Reading a stamp back -/

namespace Stamp

theorem toList_padded (width n : Nat) :
    (padded width n).toList =
      List.replicate (width - (Nat.toDigits 10 n).length) '0' ++ Nat.toDigits 10 n :=
  String.toList_ofList

theorem length_padded {width n : Nat} (hwidth : 0 < width) (h : n < 10 ^ width) :
    (padded width n).toList.length = width := by
  have hdigits := (Nat.length_toDigits_le_iff (by decide) hwidth).mpr h
  rw [toList_padded, List.length_append, List.length_replicate]
  exact Nat.sub_add_cancel hdigits

theorem ofDigitChars_padded (width n : Nat) :
    Nat.ofDigitChars 10 (padded width n).toList 0 = n := by
  rw [toList_padded, Nat.ofDigitChars_append, Nat.ofDigitChars_replicate_zero, Nat.mul_zero,
    Nat.ofDigitChars_ten_toDigits]

theorem padded_inj {width m n : Nat} (h : (padded width m).toList = (padded width n).toList) :
    m = n :=
  calc
    m = Nat.ofDigitChars 10 (padded width m).toList 0 := (ofDigitChars_padded width m).symm
    _ = Nat.ofDigitChars 10 (padded width n).toList 0 := by rw [h]
    _ = n := ofDigitChars_padded width n

/-- Each part of the clock has the width that is meant for it. -/
structure ClockWidths (s : Stamp) : Prop where
  hour : (padded 2 (s.moment.val / 3600000)).toList.length = 2
  minute : (padded 2 (s.moment.val / 60000 % 60)).toList.length = 2
  second : (padded 2 (s.moment.val / 1000 % 60)).toList.length = 2
  milli : (padded 3 (s.moment.val % 1000)).toList.length = 3

theorem clockWidths (s : Stamp) : s.ClockWidths := by
  have hday := s.moment.isLt
  constructor
  · apply length_padded (by decide)
    omega
  · apply length_padded (by decide)
    omega
  · apply length_padded (by decide)
    omega
  · apply length_padded (by decide)
    omega

theorem toList_clockText (s : Stamp) :
    s.clockText.toList = (padded 2 (s.moment.val / 3600000)).toList ++
      (padded 2 (s.moment.val / 60000 % 60)).toList ++
        (padded 2 (s.moment.val / 1000 % 60)).toList ++
          (padded 3 (s.moment.val % 1000)).toList := by
  simp only [clockText, String.toList_append]

theorem length_clockText (s : Stamp) : s.clockText.toList.length = 9 := by
  have hwidths := s.clockWidths
  rw [toList_clockText, List.length_append, List.length_append, List.length_append, hwidths.hour,
    hwidths.minute, hwidths.second, hwidths.milli]

theorem moment_eq_of_clockText {s t : Stamp} (h : s.clockText.toList = t.clockText.toList) :
    s.moment = t.moment := by
  have hs := s.clockWidths
  have ht := t.clockWidths
  rw [toList_clockText, toList_clockText] at h
  obtain ⟨hfront, hmilli⟩ := List.append_inj' h (hs.milli.trans ht.milli.symm)
  obtain ⟨hfront, hsecond⟩ := List.append_inj' hfront (hs.second.trans ht.second.symm)
  obtain ⟨hhour, hminute⟩ := List.append_inj' hfront (hs.minute.trans ht.minute.symm)
  have hhour := padded_inj hhour
  have hminute := padded_inj hminute
  have hsecond := padded_inj hsecond
  have hmilli := padded_inj hmilli
  apply Fin.ext
  omega

theorem takeWhile_text (s : Stamp) (rest : List Char) :
    (s.text.toList ++ rest).takeWhile (· != '-') = Nat.toDigits 10 s.process.toNat := by
  have hdigits : ∀ c ∈ Nat.toDigits 10 s.process.toNat, (c != '-') = true := by
    intro c hc
    rw [bne_iff_ne]
    rintro rfl
    exact absurd (isDigit_of_mem_toDigits hc) (by decide)
  have hdash : ('-' != '-') = false := by decide
  rw [toList_text, List.append_assoc, List.takeWhile_append_of_pos hdigits, List.cons_append,
    List.takeWhile_cons, hdash, if_neg Bool.false_ne_true, List.append_nil]

/-- The text of a stamp does not begin with that of another. -/
theorem eq_of_text_prefix {s t : Stamp} (h : s.text.toList <+: t.text.toList) : s = t := by
  obtain ⟨rest, hrest⟩ := h
  have hprocess : Nat.toDigits 10 s.process.toNat = Nat.toDigits 10 t.process.toNat := by
    rw [← takeWhile_text s rest, ← takeWhile_text t [], List.append_nil, hrest]
  have hclock : s.clockText.toList ++ rest = t.clockText.toList := by
    rw [toList_text, toList_text, hprocess, List.append_assoc, List.cons_append] at hrest
    exact List.tail_eq_of_cons_eq (List.append_cancel_left hrest)
  have hwhole : s.clockText.toList = t.clockText.toList := by
    apply List.IsPrefix.eq_of_length ⟨rest, hclock⟩
    rw [length_clockText, length_clockText]
  have hmoment := moment_eq_of_clockText hwhole
  have hid := UInt32.toNat_inj.mp (toDigits_inj hprocess)
  cases s
  cases t
  simp only at hid hmoment
  rw [hid, hmoment]

theorem count_dash_text (s : Stamp) : s.text.toList.count '-' = 1 := by
  have hprocess : (Nat.toDigits 10 s.process.toNat).count '-' = 0 := by
    apply List.count_eq_zero_of_not_mem
    intro hdash
    exact absurd (isDigit_of_mem_toDigits hdash) (by decide)
  have hclock : s.clockText.toList.count '-' = 0 := by
    apply List.count_eq_zero_of_not_mem
    intro hdash
    exact absurd (isDigit_of_mem_clockText hdash) (by decide)
  rw [toList_text, List.count_append, List.count_cons_self, hprocess, hclock]

theorem length_text_le (s : Stamp) : s.text.toList.length ≤ 20 := by
  have hprocess : (Nat.toDigits 10 s.process.toNat).length ≤ 10 := by
    rw [Nat.length_toDigits_le_iff (by decide) (by decide)]
    have hword := s.process.toNat_lt
    omega
  rw [toList_text, List.length_append, List.length_cons, length_clockText]
  omega

end Stamp

/-! ## What trimming forgets -/

theorem exists_eq_rdropWhile_append (cs : List Char) :
    ∃ n, cs = cs.rdropWhile (· == '-') ++ List.replicate n '-' := by
  have hback : cs.rtakeWhile (· == '-') =
      List.replicate (cs.rtakeWhile (· == '-')).length '-' := by
    rw [List.eq_replicate_iff]
    refine ⟨rfl, fun c hc => ?_⟩
    have hdash := List.mem_rtakeWhile_imp hc
    exact beq_iff_eq.mp hdash
  refine ⟨(cs.rtakeWhile (· == '-')).length, ?_⟩
  rw [← hback, List.rdropWhile_append_rtakeWhile]

/-- Texts that are the same when the dashes at their ends are gone have differed in those only. -/
theorem append_dashes_of_rdropWhile_eq {cs ds : List Char}
    (h : cs.rdropWhile (· == '-') = ds.rdropWhile (· == '-')) :
    (∃ n, ds = cs ++ List.replicate n '-') ∨ ∃ n, cs = ds ++ List.replicate n '-' := by
  obtain ⟨m, hm⟩ := exists_eq_rdropWhile_append cs
  obtain ⟨n, hn⟩ := exists_eq_rdropWhile_append ds
  rw [← h] at hn
  rcases Nat.le_total m n with hle | hle
  · left
    refine ⟨n - m, ?_⟩
    rw [hm, List.append_assoc, List.replicate_append_replicate, Nat.add_sub_cancel' hle]
    exact hn
  · right
    refine ⟨m - n, ?_⟩
    rw [hn, List.append_assoc, List.replicate_append_replicate, Nat.add_sub_cancel' hle]
    exact hm

/-! ## What a name holds of a stamp -/

/-- The characters of a stamp that a scratch name has room for. -/
def room (stem : String) : Nat := longestLabel - ((keptStem stem).length + 1)

/-- The part of a stamp that stands in a name. -/
def shown (stem : String) (s : Stamp) : List Char := s.text.toList.take (room stem)

theorem take_wholeName (stem : String) (s : Stamp) :
    (wholeName stem s).take longestLabel =
      (keptStem stem ++ ['-']).take longestLabel ++ shown stem s := by
  have hroom : longestLabel - (keptStem stem ++ ['-']).length = room stem := by
    rw [List.length_append, List.length_singleton, room]
  rw [wholeName, List.append_cons, List.take_append, hroom, shown]

/-- A stamp begins with a digit, so trimming takes nothing from its front. -/
theorem dropWhile_shown (stem : String) (s : Stamp) :
    (shown stem s).dropWhile (· == '-') = shown stem s := by
  obtain ⟨d, rest, htext, hd⟩ := s.exists_text_eq_cons
  have hdash : (d == '-') = false := by
    rw [beq_eq_false_iff_ne]
    rintro rfl
    exact absurd hd (by decide)
  rw [shown, htext]
  cases room stem with
  | zero => rfl
  | succ n => rw [List.take_succ_cons, List.dropWhile_cons, hdash, if_neg Bool.false_ne_true]

/-- What is left of the stem stands in front of the stamp, and only the end is still to trim. -/
theorem toList_scratchName_shown (stem : String) (s : Stamp) :
    (scratchName stem s).toList =
      (((keptStem stem ++ ['-']).take longestLabel).dropWhile (· == '-') ++
        shown stem s).rdropWhile (· == '-') := by
  rw [toList_scratchName, take_wholeName, trimDashes_eq, List.dropWhile_append, dropWhile_shown]
  split
  case isTrue hempty => rw [List.isEmpty_iff.mp hempty, List.nil_append]
  case isFalse => rfl

/-- Of two stamps in names with the same room, neither is the other with dashes behind it: a stamp
that is shorter than the room is shown whole, with the only dash that a stamp has. -/
theorem shown_eq_of_append_dashes {stem : String} {s t : Stamp} {n : Nat}
    (h : shown stem t = shown stem s ++ List.replicate n '-') : shown stem s = shown stem t := by
  have hnone : n = 0 := by
    by_cases hwhole : s.text.toList.length ≤ room stem
    · have hs : shown stem s = s.text.toList := List.take_of_length_le hwhole
      have hone : (shown stem t).count '-' ≤ t.text.toList.count '-' :=
        (List.take_sublist _ _).count_le '-'
      rw [h, hs, List.count_append, List.count_replicate_self, Stamp.count_dash_text,
        Stamp.count_dash_text] at hone
      omega
    · have hs : (shown stem s).length = room stem :=
        List.length_take_of_le (Nat.le_of_not_le hwhole)
      have ht : (shown stem t).length ≤ room stem := List.length_take_le _ _
      rw [h, List.length_append, List.length_replicate, hs] at ht
      omega
  rw [h, hnone, List.replicate_zero, List.append_nil]

theorem scratchName_eq_iff {stem : String} {s t : Stamp} :
    scratchName stem s = scratchName stem t ↔ shown stem s = shown stem t := by
  rw [← String.toList_inj, toList_scratchName_shown, toList_scratchName_shown]
  constructor
  · intro hnames
    rcases append_dashes_of_rdropWhile_eq hnames with ⟨n, hn⟩ | ⟨n, hn⟩
    · rw [List.append_assoc] at hn
      exact shown_eq_of_append_dashes (List.append_cancel_left hn)
    · rw [List.append_assoc] at hn
      exact (shown_eq_of_append_dashes (List.append_cancel_left hn)).symm
  · intro hshown
    rw [hshown]

/-! ## Names of their own -/

theorem eq_of_shown_eq {stem : String} {s t : Stamp} (hwhole : s.text.length ≤ room stem)
    (h : shown stem s = shown stem t) : s = t := by
  apply Stamp.eq_of_text_prefix
  have hs : shown stem s = s.text.toList := List.take_of_length_le hwhole
  rw [← hs, h]
  exact List.take_prefix _ _

/-- Two moments of one process whose stamps differ in the last of 20 characters. -/
theorem shown_eq_of_room_lt {stem : String} (h : room stem < 20) :
    shown stem ⟨4294967295, 0⟩ = shown stem ⟨4294967295, 1⟩ := by
  have hfront : (Stamp.text ⟨4294967295, 0⟩).toList.take 19 =
      (Stamp.text ⟨4294967295, 1⟩).toList.take 19 := by decide +kernel
  have hroom : min (room stem) 19 = room stem := Nat.min_eq_left (Nat.le_of_lt_succ h)
  rw [shown, shown, ← hroom, ← List.take_take, ← List.take_take, hfront]

theorem injective_scratchName_iff {stem : String} :
    Function.Injective (scratchName stem) ↔ (keptStem stem).length ≤ 42 := by
  constructor
  · intro hinjective
    by_contra hlong
    have hroom : room stem < 20 := by
      unfold room longestLabel
      omega
    have hsame := hinjective (scratchName_eq_iff.mpr (shown_eq_of_room_lt hroom))
    exact absurd hsame (by decide)
  · intro hshort s t hnames
    have hwhole : s.text.length ≤ room stem := by
      have htext := s.length_text_le
      rw [String.length_toList] at htext
      unfold room longestLabel
      omega
    exact eq_of_shown_eq hwhole (scratchName_eq_iff.mp hnames)

/-- Which stamps the scratch names of a stem tell apart: one that stands `whole` in its name has the
name for itself, and none has where there is no room for any part of it. -/
structure StampsTold (stem : String) : Prop where
  same_iff : ∀ s t, scratchName stem s = scratchName stem t ↔ shown stem s = shown stem t
  injective_iff : Function.Injective (scratchName stem) ↔ (keptStem stem).length ≤ 42
  whole : ∀ s t, s.text.length ≤ room stem → scratchName stem s = scratchName stem t → s = t
  stampless : longestLabel ≤ (keptStem stem).length + 1 →
    ∀ s t, scratchName stem s = scratchName stem t
  short : stem.length ≤ 42 → Function.Injective (scratchName stem)
  scenario : stem = scratchStem → Function.Injective (scratchName stem)

/-- The scratch names of a stem tell two stamps apart as far as they show them. -/
theorem scratchName_tells (stem : String) : StampsTold stem := by
  have hshort : stem.length ≤ 42 → Function.Injective (scratchName stem) := fun hlength =>
    injective_scratchName_iff.mpr ((length_keptStem_le stem).trans hlength)
  constructor
  · exact fun s t => scratchName_eq_iff
  · exact injective_scratchName_iff
  · exact fun s t hwhole hnames => eq_of_shown_eq hwhole (scratchName_eq_iff.mp hnames)
  · intro hlong s t
    have hroom : room stem = 0 := Nat.sub_eq_zero_of_le hlong
    rw [scratchName_eq_iff, shown, shown, hroom, List.take_zero, List.take_zero]
  · exact hshort
  · rintro rfl
    exact hshort (by decide)

/-- A stem of 63 letters. -/
def letters : String := String.ofList (List.replicate 63 'x')

/-- A stem that is as long as a label may be is the name at every moment and in every process. -/
theorem letters_sameName :
    scratchName letters ⟨4242, 45296789⟩ = scratchName letters ⟨4243, 45296790⟩ ∧
      (⟨4242, 45296789⟩ : Stamp) ≠ ⟨4243, 45296790⟩ := by
  have hroom : room letters = 0 := by decide +kernel
  refine ⟨?_, by decide⟩
  rw [scratchName_eq_iff, shown, shown, hroom, List.take_zero, List.take_zero]

end ClusterReady

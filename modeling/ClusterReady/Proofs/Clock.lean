import ClusterReady.Run.Clock
import Mathlib.Tactic.Common

/-!
# Cancellation and sleep

What a sleep does to a clock that is not cancelled yet, and what a later clock says of the
cancellation of an earlier one.
-/

namespace ClusterReady.Clock

theorem not_cancelled_iff {c : Clock} :
    c.cancelled = false ↔ ∀ t, c.cancelAt = some t → c.now < t := by
  unfold cancelled
  cases c.cancelAt <;> simp

/-- A sleep of a run that is not cancelled yet ends at the cancellation, when it comes before the
end of the sleep or together with it, and otherwise on time. -/
theorem doze_cases {c : Clock} (hc : c.cancelled = false) (wake : Nat) :
    (∃ t, c.cancelAt = some t ∧ c.now < t ∧ t ≤ wake ∧
      c.doze wake = (.cancelled, c.sleep t)) ∨
    ((∀ t, c.cancelAt = some t → max c.now wake < t) ∧
      c.doze wake = (.onTime, c.sleep wake)) := by
  cases ht : c.cancelAt with
  | none =>
      refine Or.inr ⟨?_, ?_⟩
      · intro t h
        cases h
      · simp only [doze, ht]
  | some t =>
      have hlater := not_cancelled_iff.mp hc t ht
      by_cases hle : t ≤ max c.now wake
      · refine Or.inl ⟨t, rfl, hlater, by omega, ?_⟩
        simp only [doze, ht, hle, if_true]
      · refine Or.inr ⟨fun u hu => ?_, ?_⟩
        · cases hu
          omega
        · simp only [doze, ht, hle, if_false]

theorem sleep_pause (c : Clock) (pause : Nat) : c.sleep (c.now + pause) = c.elapse pause := by
  rw [sleep, Nat.max_eq_right (Nat.le_add_right _ _)]
  rfl

/-- A pause from now on ends at the cancellation, or at once when that is past, unless it is over
before. -/
theorem doze_pause (c : Clock) (pause : Nat) :
    (∃ t, c.cancelAt = some t ∧ t ≤ c.now + pause ∧
      c.doze (c.now + pause) = (.cancelled, c.sleep t)) ∨
    ((∀ t, c.cancelAt = some t → c.now + pause < t) ∧
      c.doze (c.now + pause) = (.onTime, c.elapse pause)) := by
  have hwake : max c.now (c.now + pause) = c.now + pause :=
    Nat.max_eq_right (Nat.le_add_right _ _)
  cases ht : c.cancelAt with
  | none =>
      refine Or.inr ⟨by simp, ?_⟩
      simp only [doze, ht, sleep_pause]
  | some t =>
      by_cases hle : t ≤ c.now + pause
      · refine Or.inl ⟨t, rfl, hle, ?_⟩
        simp only [doze, ht, hwake, hle, if_true]
      · refine Or.inr ⟨?_, ?_⟩
        · intro u hu
          cases hu
          exact Nat.lt_of_not_le hle
        · simp only [doze, ht, hwake, hle, if_false, sleep_pause]

theorem sleep_not_cancelled {c : Clock} {wake : Nat}
    (h : ∀ t, c.cancelAt = some t → max c.now wake < t) :
    (c.sleep wake).cancelled = false :=
  not_cancelled_iff.mpr h

theorem cancelled_doze_iff {c : Clock} {wake : Nat} :
    (c.doze wake).2.cancelled = true ↔ (c.doze wake).1 = .cancelled := by
  unfold doze
  cases ht : c.cancelAt with
  | none =>
      have hnever : (c.sleep wake).cancelled = false := sleep_not_cancelled (by simp [ht])
      simp [hnever]
  | some t =>
      by_cases hle : t ≤ max c.now wake
      · have hover : (c.sleep t).cancelled = true :=
          cancelled_iff.mpr ⟨t, ht, Nat.le_max_right _ _⟩
        simp [hle, hover]
      · have hbefore : (c.sleep wake).cancelled = false := by
          apply sleep_not_cancelled
          intro u hu
          rw [ht] at hu
          cases hu
          exact Nat.lt_of_not_le hle
        simp [hle, hbefore]

theorem not_cancelled_of_doze {c : Clock} {wake : Nat} (h : (c.doze wake).1 = .onTime) :
    (c.doze wake).2.cancelled = false := by
  rw [← Bool.not_eq_true, cancelled_doze_iff, h]
  exact Clock.Woken.noConfusion

theorem not_cancelled_of_le {a b : Clock} (h : a ≤ b) (hb : b.cancelled = false) :
    a.cancelled = false := by
  by_contra ha
  rw [Bool.not_eq_false] at ha
  rw [cancelled_of_le h ha] at hb
  cases hb

theorem cancelAt_eq_of_le {a b : Clock} (h : a ≤ b) (ha : a.cancelled = true) :
    b.cancelAt = a.cancelAt := by
  obtain ⟨u, hu, hle⟩ := cancelled_iff.mp ha
  obtain ⟨-, hsame | ⟨t, -, hafter, -, hmin⟩⟩ := h
  · exact hsame
  · have hlt := hmin u hu
    omega

theorem now_le_cancelAt {a b : Clock} (h : a ≤ b) (ha : a.cancelled = false) {c : Nat}
    (hc : b.cancelAt = some c) : a.now ≤ c := by
  obtain ⟨-, hsame | ⟨t, ht, hafter, -, -⟩⟩ := h
  · exact Nat.le_of_lt (not_cancelled_iff.mp ha c (hsame.symm.trans hc))
  · rw [hc] at ht
    cases ht
    exact hafter

theorem cancelled_of_lt {a b : Clock} (h : a ≤ b) {c : Nat} (hc : b.cancelAt = some c)
    (hlt : c < a.now) : a.cancelled = true := by
  by_contra ha
  rw [Bool.not_eq_true] at ha
  have hle := now_le_cancelAt h ha hc
  exact absurd hlt (Nat.not_lt.mpr hle)

theorem not_cancelled_of_lt {a b : Clock} (h : a ≤ b) {c : Nat} (hc : b.cancelAt = some c)
    (hlt : a.now < c) : a.cancelled = false := by
  by_contra ha
  rw [Bool.not_eq_false] at ha
  obtain ⟨u, hu, hle⟩ := cancelled_iff.mp ha
  have hsame := cancelAt_eq_of_le h ha
  rw [hc, hu] at hsame
  cases hsame
  exact absurd hle (Nat.not_le.mpr hlt)

end ClusterReady.Clock

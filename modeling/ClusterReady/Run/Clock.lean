import ClusterReady.Duration

/-!
# The clock of a run and its cancellation

A `Clock` is the present instant, in nanoseconds since the start of the run, and the instant at
which the run is cancelled, if it is.  `a ≤ b` says that `b` is a later state of the clock `a`:
time has not gone back, and a cancellation is as it was or was brought forward to an instant
between the two.  `Clock.cancelled_of_le` is what this is for: a cancelled run stays cancelled.
-/

namespace ClusterReady

/-- The present instant and the instant of cancellation, both in nanoseconds. -/
structure Clock where
  now : Nat := 0
  /-- The instant at which the run is cancelled; `none` when nothing has been set to cancel it. -/
  cancelAt : Option Nat := none
deriving DecidableEq, Repr

namespace Clock

/-- `b` is a later state of the clock `a`. -/
def Later (a b : Clock) : Prop :=
  a.now ≤ b.now ∧
    (b.cancelAt = a.cancelAt ∨
      ∃ t, b.cancelAt = some t ∧ a.now ≤ t ∧ t ≤ b.now ∧ ∀ u, a.cancelAt = some u → t < u)

instance : LE Clock := ⟨Later⟩

theorem now_le {a b : Clock} (h : a ≤ b) : a.now ≤ b.now := h.1

theorem later_refl (a : Clock) : a ≤ a := ⟨Nat.le_refl _, .inl rfl⟩

theorem later_trans {a b c : Clock} (hab : a ≤ b) (hbc : b ≤ c) : a ≤ c := by
  obtain ⟨hnow, hcancel⟩ := hab
  obtain ⟨hnow', hcancel'⟩ := hbc
  refine ⟨Nat.le_trans hnow hnow', ?_⟩
  rcases hcancel' with hsame' | ⟨s, hs, hbs, hsc, hsmin⟩
  · rcases hcancel with hsame | ⟨t, ht, hat, htb, htmin⟩
    · exact .inl (hsame'.trans hsame)
    · exact .inr ⟨t, hsame'.trans ht, hat, Nat.le_trans htb hnow', htmin⟩
  · rcases hcancel with hsame | ⟨t, ht, hat, htb, htmin⟩
    · exact .inr ⟨s, hs, Nat.le_trans hnow hbs, hsc, fun u hu => hsmin u (hsame.trans hu)⟩
    · have := hsmin t ht
      omega

instance : Std.IsPreorder Clock where
  le_refl := later_refl
  le_trans _ _ _ := later_trans

/-- Whether the cancellation has happened by now. -/
def cancelled (c : Clock) : Bool :=
  match c.cancelAt with
  | some t => t ≤ c.now
  | none => false

theorem cancelled_iff {c : Clock} : c.cancelled = true ↔ ∃ t, c.cancelAt = some t ∧ t ≤ c.now := by
  unfold cancelled
  cases c.cancelAt <;> simp

/-- A cancelled run stays cancelled. -/
theorem cancelled_of_le {a b : Clock} (h : a ≤ b) (ha : a.cancelled = true) :
    b.cancelled = true := by
  rw [cancelled_iff] at ha ⊢
  obtain ⟨t, ht, hta⟩ := ha
  obtain ⟨hnow, hsame | ⟨s, hs, _, hsb, _⟩⟩ := h
  · exact ⟨t, hsame.trans ht, Nat.le_trans hta hnow⟩
  · exact ⟨s, hs, hsb⟩

/-- Lets time pass. -/
def elapse (c : Clock) (nanos : Nat) : Clock := { c with now := c.now + nanos }

theorem le_elapse (c : Clock) (nanos : Nat) : c ≤ c.elapse nanos :=
  ⟨Nat.le_add_right _ _, .inl rfl⟩

/-- Cancels the run at the present instant, unless it already is. -/
def cancel (c : Clock) : Clock := if c.cancelled then c else { c with cancelAt := some c.now }

theorem le_cancel (c : Clock) : c ≤ c.cancel := by
  unfold cancel
  split
  · exact later_refl c
  · rename_i h
    refine ⟨Nat.le_refl _, .inr ⟨c.now, rfl, Nat.le_refl _, Nat.le_refl _, ?_⟩⟩
    intro u hu
    rw [cancelled_iff] at h
    exact Nat.lt_of_not_le fun hle => h ⟨u, hu, hle⟩

/-- Sleeps until the instant `wake`, or not at all when it is past. -/
def sleep (c : Clock) (wake : Nat) : Clock := { c with now := max c.now wake }

theorem le_sleep (c : Clock) (wake : Nat) : c ≤ c.sleep wake :=
  ⟨Nat.le_max_left _ _, .inl rfl⟩

/-- How a sleep that watches for the cancellation ended. -/
inductive Woken where
  | onTime
  | cancelled
deriving DecidableEq, Repr

/-- Sleeps until `wake` or until the cancellation, whichever is first; the cancellation when they
fall together. -/
def doze (c : Clock) (wake : Nat) : Woken × Clock :=
  match c.cancelAt with
  | some t => if t ≤ max c.now wake then (.cancelled, c.sleep t) else (.onTime, c.sleep wake)
  | none => (.onTime, c.sleep wake)

theorem le_doze (c : Clock) (wake : Nat) : c ≤ (c.doze wake).2 := by
  unfold doze
  split
  · split
    · exact le_sleep c _
    · exact le_sleep c _
  · exact le_sleep c _

/-- A sleep that was not cancelled ends at `wake`, or at once when `wake` is past. -/
theorem now_doze_of_onTime {c : Clock} {wake : Nat} (h : (c.doze wake).1 = .onTime) :
    (c.doze wake).2.now = max c.now wake := by
  unfold doze at h ⊢
  split at h
  · split at h
    · cases h
    · rename_i heq hle
      simp [heq, hle, sleep]
  · rename_i heq
    simp [heq, sleep]

end Clock

end ClusterReady

import ClusterReady.Json.Decode
import ClusterReady.Wait.Failure

/-!
# Acceptable counts

A `CountRange` is an interval of 32-bit counts whose minimum does not exceed its maximum.  In a
document it is written as its `min` and its `max`; reading one checks their order.
-/

namespace ClusterReady

/-- An interval of acceptable counts, both ends included. -/
structure CountRange where
  min : UInt32
  max : UInt32
  min_le_max : min ≤ max
deriving DecidableEq

namespace CountRange

/-- The range from `min` to `max`; refused when they are reversed. -/
def make (min max : UInt32) : Except InvalidWait CountRange :=
  if h : min ≤ max then .ok ⟨min, max, h⟩
  else .error (.reversedRange min.toNat max.toNat)

/-- The range that accepts one count only. -/
def exact (n : UInt32) : CountRange := ⟨n, n, UInt32.le_refl n⟩

def isExact (r : CountRange) : Bool := r.min == r.max

def contains (r : CountRange) (n : Nat) : Bool := r.min.toNat ≤ n && n ≤ r.max.toNat

/-- A single number for an exact range, else both ends. -/
def text (r : CountRange) : String :=
  if r.isExact then s!"{r.min.toNat}" else s!"{r.min.toNat}..={r.max.toNat}"

theorem make_eq_ok_iff {min max : UInt32} {r : CountRange} :
    make min max = .ok r ↔ r.min = min ∧ r.max = max := by
  constructor
  · intro h
    unfold make at h
    split at h
    · cases h
      exact ⟨rfl, rfl⟩
    · cases h
  · rintro ⟨rfl, rfl⟩
    simp [make, r.min_le_max]

/-- The two ends of a range, in the order of the document. -/
def decoder : Json.Decoder CountRange := fun j => do
  let (min, max) ← Json.fixedRecord "RawCountRange" ((0, 0) : Nat × Nat) [
    .required "min" Json.word32 fun v r => (v, r.2),
    .required "max" Json.word32 fun v r => (r.1, v)] j
  (make min.toUInt32 max.toUInt32).mapError fun fault =>
    .refused (WaitError.invalid fault).message

/-- The document of a range. -/
def toJson (r : CountRange) : Json :=
  .obj [("min", .int r.min.toNat), ("max", .int r.max.toNat)]

end CountRange

end ClusterReady

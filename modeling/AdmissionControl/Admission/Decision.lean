import AdmissionControl.Identity
import AdmissionControl.Time

/-!
# Limits and decisions

How many requests an identity may make in one window, how long it is blocked once it made more, and
what the outcome of one admission check says.
-/

namespace AdmissionControl

/-- The ceilings of a service, one for each kind of identity, and the length of a block. -/
structure Limits where
  ipLimit : UInt64
  tokenLimit : UInt64
  blockSpan : Duration

def Limits.limitFor (limits : Limits) : Identity → UInt64
  | .ip _ => limits.ipLimit
  | .token _ => limits.tokenLimit

/-- The outcome of one admission check. -/
structure Decision where
  allowed : Bool
  /-- The count with this request, or one more than the limit for an identity that was blocked. -/
  currentCount : UInt64
  limit : UInt64
  identity : Identity
deriving DecidableEq

namespace Decision

def remaining (decision : Decision) : UInt64 :=
  if decision.currentCount ≤ decision.limit then decision.limit - decision.currentCount else 0

/-- The count reported while an identity is blocked: one more than the limit, as far as the width of
a count goes. -/
def countBeyond (limit : UInt64) : UInt64 :=
  if limit.toNat + 1 < UInt64.size then limit + 1 else limit

def ofBlocked (identity : Identity) (limit : UInt64) : Decision where
  allowed := false
  currentCount := countBeyond limit
  limit
  identity

/-- The decision on an identity whose count has been raised. -/
def ofCount (identity : Identity) (limit count : UInt64) : Decision where
  allowed := count ≤ limit
  currentCount := count
  limit
  identity

theorem remaining_toNat (decision : Decision) :
    decision.remaining.toNat = decision.limit.toNat - decision.currentCount.toNat := by
  unfold remaining
  split
  · next within => exact UInt64.toNat_sub_of_le _ _ within
  · next beyond =>
      have larger : decision.limit.toNat < decision.currentCount.toNat := by
        simpa [UInt64.le_iff_toNat_le] using beyond
      simp only [UInt64.toNat_zero]
      omega

theorem countBeyond_toNat (limit : UInt64) :
    (countBeyond limit).toNat = min (limit.toNat + 1) (UInt64.size - 1) := by
  have bound := limit.toNat_lt
  simp only [countBeyond, UInt64.size]
  split
  · rw [UInt64.toNat_add]
    simp only [UInt64.reduceToNat]
    omega
  · omega

end Decision

end AdmissionControl

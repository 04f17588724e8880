import AdmissionControl.Identity

/-!
# Keys in the remote store

Counters and blocks lie under keys of their own, each a fixed beginning and the identity in writing.
-/

namespace AdmissionControl.Remote

def counterKey (identity : Identity) : String :=
  "rate_limit:counter:" ++ identity.text

def blockedKey (identity : Identity) : String :=
  "rate_limit:blocked:" ++ identity.text

theorem counterKey_inj {left right : Identity} :
    counterKey left = counterKey right ↔ left = right := by
  unfold counterKey
  rw [String.append_right_inj, Identity.text_inj]

theorem blockedKey_inj {left right : Identity} :
    blockedKey left = blockedKey right ↔ left = right := by
  unfold blockedKey
  rw [String.append_right_inj, Identity.text_inj]

theorem counterKey_ne_blockedKey (left right : Identity) : counterKey left ≠ blockedKey right := by
  unfold counterKey blockedKey
  intro same
  have spelt := congrArg String.toList same
  rw [String.toList_append, String.toList_append] at spelt
  -- The two beginnings are equally long, so they would have to be the same.
  have beginnings := List.append_inj_left spelt (by decide)
  exact absurd (String.toList_injective beginnings) (by decide)

end AdmissionControl.Remote

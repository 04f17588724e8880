import AdmissionControl.Proofs.Store.LiveEntries

/-!
# Room for further raises

A count is a machine word, and a number under a key has fewer bits still. A store has room for a
number of raises below a bound if no count that lives can reach the bound with so many more
(`Memory.Headroom`). A raise uses up one of them, and nothing else uses up any.
-/

namespace AdmissionControl

/-- How often an operation raises a counter. -/
def Operation.raises : Operation → Nat
  | .increment _ => 1
  | _ => 0

namespace Memory

/-- So many more raises leave every count that lives below a bound. -/
structure Headroom (memory : Memory) (now : Instant) (bound room : Nat) : Prop where
  fresh : room < bound
  counted : ∀ identity counter, memory.counterAt? now identity = some counter →
    counter.count.toNat + room < bound

namespace Headroom

variable {memory : Memory} {now : Instant} {bound room : Nat} {operation : Operation}
  {identity : Identity}

theorem later {point : Instant} (headroom : memory.Headroom now bound room)
    (earlier : now ≤ point) : memory.Headroom point bound room where
  fresh := headroom.fresh
  counted identity counter live := by
    have entry := counterAt?_eq_some_iff.mp live
    exact headroom.counted identity counter
      (counterAt?_eq_some_iff.mpr ⟨entry.1, Nat.lt_of_le_of_lt earlier entry.2⟩)

theorem fewer {less : Nat} (headroom : memory.Headroom now bound room) (within : less ≤ room) :
    memory.Headroom now bound less where
  fresh := Nat.lt_of_le_of_lt within headroom.fresh
  counted identity counter live :=
    Nat.lt_of_le_of_lt (Nat.add_le_add_left within _) (headroom.counted identity counter live)

theorem raised (headroom : memory.Headroom now bound (room + 1)) (identity : Identity) :
    (memory.raised now identity).count.toNat + room < bound := by
  cases live : memory.counterAt? now identity with
  | none =>
      have few := headroom.fresh
      have one : (0 + 1 : UInt64).toNat = 1 := rfl
      simp only [Memory.raised, live, Option.getD_none, one]
      omega
  | some counter =>
      have few := headroom.counted identity counter live
      have next := succ_toNat_le counter.count
      simp only [Memory.raised, live, Option.getD_some]
      omega

theorem increment (headroom : memory.Headroom now bound (room + 1))
    (fits : (Operation.increment identity).Fits memory.window now) :
    (memory.increment now identity).2.Headroom now bound room where
  fresh := Nat.lt_of_succ_lt headroom.fresh
  counted other counter live := by
    by_cases same : other = identity
    · subst same
      rw [counterAt?_increment fits, Option.filter_eq_some_iff] at live
      rw [← Option.some.inj live.1]
      exact headroom.raised other
    · rw [counterAt?_increment_of_ne (Nat.le_refl _) same] at live
      exact (headroom.fewer (Nat.le_succ room)).counted other counter live

/-- A store has the room of another if it has no live counters but those of the other. -/
theorem of_among {other : Memory} (headroom : memory.Headroom now bound room)
    (among : ∀ identity counter, other.counterAt? now identity = some counter →
      memory.counterAt? now identity = some counter) : other.Headroom now bound room where
  fresh := headroom.fresh
  counted identity counter live := headroom.counted identity counter (among identity counter live)

theorem sweep (headroom : memory.Headroom now bound room) :
    (memory.sweep now).Headroom now bound room :=
  headroom.of_among fun _ _ live => (counterAt?_sweep (Nat.le_refl _)).symm.trans live

/-- Only raises use up room. -/
theorem perform (headroom : memory.Headroom now bound (room + operation.raises))
    (fits : operation.Fits memory.window now) :
    (memory.perform now operation).2.Headroom now bound room := by
  have kept := headroom.fewer (Nat.le_add_right room operation.raises)
  by_cases raises : ∃ identity, operation = .increment identity
  · rcases raises with ⟨identity, rfl⟩
    exact guarded_snd (Headroom · now bound room) kept (headroom.increment fits)
  · refine kept.of_among fun identity counter live => ?_
    have unraised : operation ≠ .increment identity := fun same => raises ⟨identity, same⟩
    exact counterAt?_of_perform (Nat.le_refl _) unraised live

end Headroom

end Memory

end AdmissionControl

import AdmissionControl.Proofs.Store.LiveEntries

/-!
# Stores that agree on an identity

Two stores agree on an identity at a point in time if they hold the same live entries for it and can
be reached alike. They may differ in everything else: the entries of other identities, and which
dead entries they still hold.

An operation that concerns no other identity has the same answer at both and keeps them in agreement
(`Memory.AgreesOn.perform`). An operation on another identity may be performed at one of them alone
(`Memory.AgreesOn.perform_other`), as long as the clock can hold the end that it asks for. Beyond
that it would spoil the store for everybody.
-/

namespace AdmissionControl

/-- An operation concerns no identity but the given one. -/
def Operation.Concerns (identity : Identity) (operation : Operation) : Prop :=
  ∀ subject, operation.subject? = some subject → subject = identity

instance (identity : Identity) (operation : Operation) : Decidable (operation.Concerns identity) :=
  decidable_of_iff (operation.subject?.all fun subject => subject = identity) (by
    cases subject : operation.subject? <;> simp [Operation.Concerns, subject])

theorem Operation.subject_of_not_concerns {identity : Identity} {operation : Operation}
    (foreign : ¬operation.Concerns identity) :
    ∃ subject, operation.subject? = some subject ∧ subject ≠ identity := by
  simpa [Operation.Concerns] using foreign

namespace Memory

structure AgreesOn (identity : Identity) (now : Instant) (left right : Memory) : Prop where
  window : left.window = right.window
  closed : left.closed = right.closed
  spoilt : left.spoilt = right.spoilt
  counter : left.counterAt? now identity = right.counterAt? now identity
  block : left.blockAt? now identity = right.blockAt? now identity

namespace AgreesOn

variable {identity subject : Identity} {now point : Instant} {left right : Memory}
  {operation : Operation}

theorem refl (memory : Memory) : memory.AgreesOn identity now memory :=
  ⟨rfl, rfl, rfl, rfl, rfl⟩

theorem symm (agrees : left.AgreesOn identity now right) : right.AgreesOn identity now left :=
  ⟨agrees.window.symm, agrees.closed.symm, agrees.spoilt.symm, agrees.counter.symm,
    agrees.block.symm⟩

theorem later (agrees : left.AgreesOn identity now right) (earlier : now ≤ point) :
    left.AgreesOn identity point right where
  window := agrees.window
  closed := agrees.closed
  spoilt := agrees.spoilt
  counter := by
    rw [counterAt?_later earlier, counterAt?_later earlier, agrees.counter]
  block := by
    rw [blockAt?_later earlier, blockAt?_later earlier, agrees.block]

theorem sweep (agrees : left.AgreesOn identity now right) :
    (left.sweep now).AgreesOn identity now (right.sweep now) where
  window := agrees.window
  closed := agrees.closed
  spoilt := agrees.spoilt
  counter := by
    simpa [counterAt?_sweep (Nat.le_refl _)] using agrees.counter
  block := by
    simpa [blockAt?_sweep (Nat.le_refl _)] using agrees.block

theorem obstacle (agrees : left.AgreesOn identity now right) :
    left.obstacle? = right.obstacle? := by
  simp [obstacle?, agrees.closed, agrees.spoilt]

theorem count_eq (agrees : left.AgreesOn identity now right) :
    left.count now identity = right.count now identity := by
  have counter := agrees.counter
  simp only [count_eq_live, agrees.spoilt, counter]

theorem blocked_eq (agrees : left.AgreesOn identity now right) :
    left.blocked now identity = right.blocked now identity := by
  rw [blocked_eq_isSome, blocked_eq_isSome, agrees.block]

/-- Performed at both stores under the same conditions, an operation keeps them in agreement if it
does so where nothing is in its way. -/
theorem guarded {α : Type} {first second : Answer α × Memory}
    (agrees : left.AgreesOn identity now right)
    (outcome : first.1 = second.1 ∧ first.2.AgreesOn identity now second.2) :
    (left.guarded first).1 = (right.guarded second).1 ∧
      (left.guarded first).2.AgreesOn identity now (right.guarded second).2 := by
  have same := agrees.obstacle
  cases obstacle : right.obstacle? with
  | none =>
      rw [obstacle] at same
      rwa [guarded_eq_of_open same, guarded_eq_of_open obstacle]
  | some fault =>
      rw [obstacle] at same
      rw [guarded_eq_of_obstacle same, guarded_eq_of_obstacle obstacle]
      exact ⟨rfl, agrees⟩

theorem increment (agrees : left.AgreesOn identity now right) :
    (left.increment now identity).1 = (right.increment now identity).1 ∧
      (left.increment now identity).2.AgreesOn identity now (right.increment now identity).2 := by
  cases held : now.after? right.window with
  | none =>
      have overflow := held
      rw [← agrees.window] at overflow
      rw [increment_of_overflow overflow, increment_of_overflow held]
      exact ⟨rfl, { agrees.sweep with spoilt := rfl }⟩
  | some expiry =>
      have heldLeft := held
      rw [← agrees.window] at heldLeft
      rw [increment_of_held heldLeft, increment_of_held held, agrees.counter]
      refine ⟨rfl, { agrees.sweep with counter := ?_ }⟩
      simp [counterAt?, Table.get?_insert]

theorem block_own (agrees : left.AgreesOn identity now right) (span : Duration) :
    (left.block now identity span).1 = (right.block now identity span).1 ∧
      (left.block now identity span).2.AgreesOn identity now
        (right.block now identity span).2 := by
  cases held : now.after? span with
  | none =>
      rw [block_of_overflow held, block_of_overflow held]
      exact ⟨rfl, { agrees.sweep with spoilt := rfl }⟩
  | some expiry =>
      rw [block_of_held held, block_of_held held]
      refine ⟨rfl, { agrees.sweep with block := ?_ }⟩
      simp [blockAt?, Table.get?_insert]

/-- Two stores that agree on an identity answer alike whatever concerns no other one. -/
theorem perform (agrees : left.AgreesOn identity now right)
    (concerns : operation.Concerns identity) :
    (left.perform now operation).1 = (right.perform now operation).1 ∧
      (left.perform now operation).2.AgreesOn identity now (right.perform now operation).2 := by
  cases operation with
  | isBlocked subject =>
      have same : subject = identity := concerns subject rfl
      subst same
      exact agrees.guarded ⟨congrArg Except.ok agrees.blocked_eq, agrees⟩
  | increment subject =>
      have same : subject = identity := concerns subject rfl
      subst same
      exact agrees.guarded agrees.increment
  | block subject span =>
      have same : subject = identity := concerns subject rfl
      subst same
      exact agrees.guarded (agrees.block_own span)
  | reset subject =>
      have same : subject = identity := concerns subject rfl
      subst same
      refine agrees.guarded ⟨rfl, { agrees with counter := ?_ }⟩
      simp [counterAt?, Table.get?_erase]
  | ping => exact agrees.guarded ⟨rfl, agrees⟩
  | close => exact ⟨rfl, { agrees with closed := rfl }⟩

/-- What another identity is doing at a store does not disturb its agreement. -/
theorem perform_other (agrees : left.AgreesOn identity now right)
    (about : operation.subject? = some subject) (other : subject ≠ identity)
    (fits : operation.Fits left.window now) :
    (left.perform now operation).2.AgreesOn identity now right := by
  have unraised : operation ≠ .increment identity := by
    rintro rfl
    exact other (Option.some.inj about).symm
  have unreset : operation ≠ .reset identity := by
    rintro rfl
    exact other (Option.some.inj about).symm
  have unblocked : ∀ span, operation ≠ .block identity span := by
    rintro span rfl
    exact other (Option.some.inj about).symm
  constructor
  · rw [perform_window]
    exact agrees.window
  · rw [perform_closed (by rintro rfl; cases about)]
    exact agrees.closed
  · rw [perform_spoilt fits]
    exact agrees.spoilt
  · rw [counterAt?_perform (Nat.le_refl _) unraised unreset]
    exact agrees.counter
  · rw [blockAt?_perform (Nat.le_refl _) unblocked]
    exact agrees.block

end AgreesOn

end Memory

end AdmissionControl

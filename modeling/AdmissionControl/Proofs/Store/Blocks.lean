import AdmissionControl.Proofs.Store.Log

/-!
# Blocks in a log

What a log of a store says about the block of one identity. Nothing but setting a block touches it:
counting, resets and the sweeps that run inside the calls of other identities leave it where it is.

Blocks of one length end in the order in which they are set, so a block that replaces another never
ends earlier. An identity once blocked therefore stays blocked until the end that was set first
(`StoreLog.heldUntil`), and is free again exactly at the end that was set last
(`StoreLog.blockAt?_eq`).
-/

namespace AdmissionControl

namespace StoreCall

variable {call : StoreCall} {identity : Identity} {span : Duration} {later expiry : Instant}

theorem lookup_of_found? {found : Bool} (performed : call.Performed)
    (answered : call.found? identity = some found) :
    found = (call.before.blockAt? call.time identity).isSome ∧ call.after = call.before := by
  rcases call with ⟨time, caller, operation, answer, before, after⟩
  cases operation with
  | isBlocked subject =>
      cases answer with
      | error failure => simp [found?] at answered
      | ok result =>
          simp only [found?, Option.ite_none_right_eq_some, Option.some.injEq] at answered
          rcases answered with ⟨rfl, rfl⟩
          exact Memory.lookup_of_ok performed
  | _ => simp [found?] at answered

theorem found?_of_answered (looks : call.operation = .isBlocked identity)
    (answered : ∃ result, call.answer = .ok result) :
    ∃ found, call.found? identity = some found := by
  rcases call with ⟨time, caller, operation, answer, before, after⟩
  simp only at looks
  subst looks
  cases answer with
  | error failure => simp at answered
  | ok found => exact ⟨found, by simp [found?]⟩

theorem entry_of_block (performed : call.Performed)
    (blocks : call.operation = .block identity span)
    (answered : ∃ result, call.answer = .ok result) :
    call.after.blocks.get? identity = some (call.time.shift span) := by
  rcases call with ⟨time, caller, operation, answer, before, after⟩
  simp only at blocks
  subst blocks
  cases answer with
  | error failure => simp at answered
  | ok set => exact Memory.blocked_of_ok performed

/-- Only setting the block of an identity changes it. -/
theorem blockAt?_after (performed : call.Performed)
    (unblocked : ∀ span, call.operation ≠ .block identity span) (earlier : call.time ≤ later) :
    call.after.blockAt? later identity = call.before.blockAt? later identity := by
  rw [performed.after_eq]
  exact Memory.blockAt?_perform earlier unblocked

theorem entry_of_after (performed : call.Performed)
    (entry : call.after.blocks.get? identity = some expiry) :
    call.before.blocks.get? identity = some expiry ∨
      ∃ span, call.operation = .block identity span ∧ expiry = call.time.shift span := by
  rw [performed.after_eq] at entry
  exact Memory.blocks_get?_of_perform entry

end StoreCall

/-- The identity is blocked from a moment on up to some point at least. -/
def Moment.HeldUntil (moment : Moment) (expiry : Instant) (identity : Identity) : Prop :=
  moment.now < expiry →
    ∃ ending, moment.memory.blocks.get? identity = some ending ∧ expiry ≤ ending

namespace Moment.HeldUntil

variable {moment : Moment} {identity : Identity} {expiry point : Instant} {call : StoreCall}

theorem later (held : moment.HeldUntil expiry identity) (notBefore : moment.now ≤ point) :
    HeldUntil ⟨point, moment.memory⟩ expiry identity :=
  fun alive => held (Nat.lt_of_le_of_lt notBefore alive)

theorem blockAt?_isSome (held : moment.HeldUntil expiry identity) (alive : moment.now < expiry) :
    (moment.memory.blockAt? moment.now identity).isSome := by
  rcases held alive with ⟨ending, entry, notBefore⟩
  rw [Memory.blockAt?_eq_some_iff.mpr ⟨entry, Nat.lt_of_lt_of_le alive notBefore⟩]
  rfl

/-- No call shortens a block, as long as a call that sets it anew does not. -/
theorem after (performed : call.Performed)
    (held : HeldUntil ⟨call.time, call.before⟩ expiry identity)
    (renewed : ∀ span, call.operation = .block identity span →
      call.after.blocks.get? identity = some (call.time.shift span) ∧
        expiry ≤ call.time.shift span) :
    HeldUntil ⟨call.time, call.after⟩ expiry identity := by
  intro alive
  by_cases blocks : ∃ span, call.operation = .block identity span
  · rcases blocks with ⟨span, blocks⟩
    exact ⟨_, renewed span blocks⟩
  · rcases held alive with ⟨ending, entry, notBefore⟩
    have lives : call.before.blockAt? call.time identity = some ending :=
      Memory.blockAt?_eq_some_iff.mpr ⟨entry, Nat.lt_of_lt_of_le alive notBefore⟩
    rw [← StoreCall.blockAt?_after performed (fun span same => blocks ⟨span, same⟩)
      (Nat.le_refl _)] at lives
    exact ⟨ending, (Memory.blockAt?_eq_some_iff.mp lives).1, notBefore⟩

end Moment.HeldUntil

namespace StoreLog

variable {start finish : Moment} {calls : List StoreCall} {identity : Identity}
  {later expiry : Instant}

/-- As long as the clock can hold every expiry and nobody closes the store, every call is
answered. -/
theorem answered (log : StoreLog start calls finish) (reachable : start.memory.obstacle? = none)
    (kept : ∀ call ∈ calls, call.operation ≠ .close)
    (windowFits : (finish.now.shift start.memory.window).nanoseconds < Instant.horizon)
    (blockFits : ∀ call ∈ calls, ∀ subject span, call.operation = .block subject span →
      (finish.now.shift span).nanoseconds < Instant.horizon) :
    ∀ call ∈ calls, ∃ result, call.answer = .ok result := by
  induction log with
  | quiet later same => simp
  | @call start finish first rest later found performed continues ih =>
      have soon : first.time ≤ finish.now := continues.now_le
      have fits {span : Duration} (late : (finish.now.shift span).nanoseconds < Instant.horizon) :
          (first.time.shift span).nanoseconds < Instant.horizon := by
        simp only [Instant.shift_nanoseconds, Instant.le_iff] at late soon ⊢
        omega
      rw [← found] at reachable windowFits
      have succeeds := Memory.perform_of_open reachable (kept first List.mem_cons_self)
        (fits windowFits)
        (fun subject span same => fits (blockFits first List.mem_cons_self subject span same))
      rw [← performed.answer_eq, ← performed.after_eq] at succeeds
      intro call made
      rcases List.mem_cons.mp made with rfl | inRest
      · exact succeeds.1
      · refine ih succeeds.2 (fun call made => kept call (List.mem_cons_of_mem _ made)) ?_
          (fun call made => blockFits call (List.mem_cons_of_mem _ made)) call inRest
        rw [StoreCall.window_after performed]
        exact windowFits

/-- An entry at the end of a log was there at the start, or one of the calls set it. -/
theorem entry_source (log : StoreLog start calls finish)
    (entry : finish.memory.blocks.get? identity = some expiry) :
    start.memory.blocks.get? identity = some expiry ∨
      ∃ call ∈ calls, ∃ span, call.operation = .block identity span ∧
        expiry = call.time.shift span := by
  induction log with
  | quiet later same =>
      rw [same] at entry
      exact Or.inl entry
  | @call start finish first rest later found performed continues ih =>
      rcases ih entry with before | ⟨call, made, set⟩
      · rcases StoreCall.entry_of_after performed before with older | set
        · rw [found] at older
          exact Or.inl older
        · exact Or.inr ⟨first, List.mem_cons_self, set⟩
      · exact Or.inr ⟨call, List.mem_cons_of_mem _ made, set⟩

theorem blocks_none (log : StoreLog start calls finish)
    (free : start.memory.blocks.get? identity = none)
    (unblocked : ∀ call ∈ calls, ∀ span, call.operation ≠ .block identity span) :
    finish.memory.blocks.get? identity = none := by
  cases entry : finish.memory.blocks.get? identity with
  | none => rfl
  | some expiry =>
      rcases log.entry_source entry with before | ⟨call, made, span, blocks, _⟩
      · rw [free] at before
        cases before
      · exact absurd blocks (unblocked call made span)

theorem blocks_none_before (log : StoreLog start calls finish)
    (free : start.memory.blocks.get? identity = none)
    (unblocked : ∀ call ∈ calls, ∀ span, call.operation ≠ .block identity span) {call : StoreCall}
    (made : call ∈ calls) : call.before.blocks.get? identity = none := by
  rcases List.append_of_mem made with ⟨earlier, rest, rfl⟩
  exact log.up_to.blocks_none free (fun call made => unblocked call (List.mem_append_left _ made))

/-- While nobody sets the block of an identity, the block stays as it is. -/
theorem blockAt?_eq (log : StoreLog start calls finish)
    (unblocked : ∀ call ∈ calls, ∀ span, call.operation ≠ .block identity span)
    (notBefore : finish.now ≤ later) :
    finish.memory.blockAt? later identity = start.memory.blockAt? later identity := by
  induction log with
  | quiet _ same => rw [same]
  | @call start finish first rest _ found performed continues ih =>
      have soon : first.time ≤ later := Nat.le_trans continues.now_le notBefore
      rw [ih (fun call made => unblocked call (List.mem_cons_of_mem _ made)) notBefore, ← found]
      exact StoreCall.blockAt?_after performed (unblocked first List.mem_cons_self) soon

/-- An identity stays blocked up to the end of its block, if every call that sets the block anew
moves its end on. -/
theorem heldUntil (log : StoreLog start calls finish) (held : start.HeldUntil expiry identity)
    (renewed : ∀ call ∈ calls, ∀ span, call.operation = .block identity span →
      call.after.blocks.get? identity = some (call.time.shift span) ∧
        expiry ≤ call.time.shift span) :
    finish.HeldUntil expiry identity := by
  induction log with
  | quiet later same =>
      have onward := held.later later
      rwa [← same] at onward
  | @call start finish first rest later found performed continues ih =>
      have onward := held.later later
      rw [← found] at onward
      exact ih (onward.after performed (renewed first List.mem_cons_self))
        (fun call made => renewed call (List.mem_cons_of_mem _ made))

end StoreLog

end AdmissionControl

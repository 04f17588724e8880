import AdmissionControl.Proofs.Admission.Transcript
import AdmissionControl.Proofs.Store.Blocks

/-!
# The authority of a block

Once an identity is blocked, every check of it that looks before the block is over denies its client
and calls the store no more, whatever runs beside it (`Traffic.block_authoritative`).

All checks of services with the same limits set blocks of one length. A check that set out before
the block and sets it again therefore moves its end on, and a reset, which forgets the counter, does
not touch it.
-/

namespace AdmissionControl

/-- Nothing remains to a client that is blocked, even where no word is beyond its limit. -/
theorem Decision.remaining_ofBlocked (identity : Identity) (limit : UInt64) :
    (Decision.ofBlocked identity limit).remaining = 0 := by
  apply UInt64.toNat.inj
  have bound := limit.toNat_lt
  rw [Decision.remaining_toNat, UInt64.toNat_zero]
  change limit.toNat - (Decision.countBeyond limit).toNat = 0
  rw [Decision.countBeyond_toNat]
  simp only [UInt64.size]
  omega

namespace Traffic

variable {window : Duration} {limits : Limits} {moves : List Move} {identity : Identity}
  {earlier later : List StoreCall} {call block : StoreCall} {span : Duration}

/-- Moves that leave the blocks to the checks: nobody else sets one or closes the store, and the
clock can hold the end of every entry. -/
structure Undisturbed (window : Duration) (limits : Limits) (moves : List Move) : Prop where
  shared : SharedLimits limits moves
  undirected : ∀ subject span, Move.direct (.block subject span) ∉ moves
  kept : Move.direct .close ∉ moves
  windowFits : (((fresh window).run moves).now.shift window).nanoseconds < Instant.horizon
  blockFits :
    (((fresh window).run moves).now.shift limits.blockSpan).nanoseconds < Instant.horizon

namespace Undisturbed

variable (undisturbed : Undisturbed window limits moves)
include undisturbed

theorem span_eq {subject : Identity} (made : call ∈ (fresh window).history moves)
    (blocks : call.operation = .block subject span) : span = limits.blockSpan := by
  rcases made_by undisturbed.shared made with
    ⟨_, direct⟩ | ⟨number, checked, state, caller, _, transcript⟩
  · rw [blocks] at direct
    exact absurd direct (undisturbed.undirected subject span)
  · exact (transcript.excess_of_block (mem_callsOf.mpr ⟨made, caller⟩) blocks).2.1

theorem answered (made : call ∈ (fresh window).history moves) :
    ∃ result, call.answer = .ok result := by
  refine ((fresh window).log_history moves).answered rfl ?_ undisturbed.windowFits ?_ call made
  · intro call made closes
    apply undisturbed.kept
    apply is_direct undisturbed.shared made closes
    intro check phase
    cases phase <;> exact nofun
  · intro call made subject span blocks
    rw [undisturbed.span_eq made blocks]
    exact undisturbed.blockFits

theorem entry_of_block (made : call ∈ (fresh window).history moves)
    (blocks : call.operation = .block identity span) :
    call.after.blocks.get? identity = some (call.time.shift limits.blockSpan) := by
  have performed := ((fresh window).log_history moves).performed made
  have entry := StoreCall.entry_of_block performed blocks (undisturbed.answered made)
  rwa [undisturbed.span_eq made blocks] at entry

/-- A lookup after a block and before its end finds the identity blocked. -/
theorem found_of_block (split : (fresh window).history moves = earlier ++ block :: later)
    (blocks : block.operation = .block identity span) {lookup : StoreCall} (member : lookup ∈ later)
    (looks : lookup.operation = .isBlocked identity)
    (inTime : lookup.time < block.time.shift limits.blockSpan) :
    lookup.found? identity = some true ∧ lookup.after = lookup.before := by
  have recorded {call : StoreCall} (made : call ∈ block :: later) :
      call ∈ (fresh window).history moves := split ▸ List.mem_append_right _ made
  have log := (fresh window).log_history moves
  have made := recorded (List.mem_cons_of_mem _ member)
  rcases StoreCall.found?_of_answered looks (undisturbed.answered made) with ⟨found, answer⟩
  rcases StoreCall.lookup_of_found? (log.performed made) answer with ⟨same, unchanged⟩
  refine ⟨?_, unchanged⟩
  rw [split] at log
  rcases List.append_of_mem member with ⟨between, rest, rfl⟩
  have held : Moment.HeldUntil ⟨block.time, block.after⟩ (block.time.shift limits.blockSpan)
      identity :=
    fun _ => ⟨_, undisturbed.entry_of_block (recorded List.mem_cons_self) blocks, Nat.le_refl _⟩
  have stillHeld := log.onward.up_to.heldUntil held (by
    intro call made span blocks
    have recordedCall := recorded (List.mem_cons_of_mem _ (List.mem_append_left _ made))
    have notBefore : block.time ≤ call.time := log.onward.le_time (List.mem_append_left _ made)
    rw [undisturbed.span_eq recordedCall blocks]
    exact ⟨undisturbed.entry_of_block recordedCall blocks, Nat.add_le_add_right notBefore _⟩)
  rw [answer, same, stillHeld.blockAt?_isSome inTime]

/-- A check that looks after a block and before its end denies its client and calls no more. -/
theorem denied_of_block (split : (fresh window).history moves = earlier ++ block :: later)
    (blocks : block.operation = .block identity span) {lookup : StoreCall} (member : lookup ∈ later)
    (looks : lookup.operation = .isBlocked identity)
    (inTime : lookup.time < block.time.shift limits.blockSpan) {number : Nat}
    (caller : lookup.caller = some number) :
    callsOf number ((fresh window).history moves) = [lookup] ∧
      (Move.strand number ∉ moves → ((fresh window).run moves).returned? number =
        some (.ofBlocked identity (limits.limitFor identity))) := by
  have made : lookup ∈ (fresh window).history moves := by
    rw [split]
    exact List.mem_append_right _ (List.mem_cons_of_mem _ member)
  have found := (undisturbed.found_of_block split blocks member looks inTime).1
  rcases made_by undisturbed.shared made with
    ⟨direct, _⟩ | ⟨maker, subject, state, madeBy, held, transcript⟩
  · rw [caller] at direct
    cases direct
  · rw [caller] at madeBy
    cases madeBy
    have own : lookup ∈ callsOf number ((fresh window).history moves) :=
      mem_callsOf.mpr ⟨made, caller⟩
    rcases transcript.operation_of_mem own with ⟨phase, same⟩
    rw [looks] at same
    cases phase with
    | lookup =>
        cases same
        rcases transcript.denied_of_found own found with ⟨only, decided | ⟨stranded, _⟩⟩
        · subst decided
          exact ⟨only, fun _ => returned?_eq_some_iff.mpr ⟨_, held⟩⟩
        · exact ⟨only, fun unstranded => absurd stranded unstranded⟩
    | count => cases same
    | block count => cases same

/-- A call that sets a block never moves the end of a block that is there back. -/
theorem entry_le_of_block (split : (fresh window).history moves = earlier ++ block :: later)
    {expiry : Instant} (entry : block.before.blocks.get? identity = some expiry) :
    expiry ≤ block.time.shift limits.blockSpan := by
  have log := (fresh window).log_history moves
  rw [split] at log
  rcases log.up_to.entry_source entry with fresh | ⟨call, member, span, blocks, rfl⟩
  · cases fresh
  · have made : call ∈ (Traffic.fresh window).history moves := by
      rw [split]
      exact List.mem_append_left _ member
    rw [undisturbed.span_eq made blocks]
    exact Nat.add_le_add_right (log.up_to.time_le member) _

/-- After the last call that sets it, a block is over exactly its length after that call. -/
theorem lapsed_iff (split : (fresh window).history moves = earlier ++ block :: later)
    (blocks : block.operation = .block identity span)
    (last : ∀ call ∈ later, ∀ span, call.operation ≠ .block identity span) {now : Instant}
    (notBefore : ((fresh window).run moves).now ≤ now) :
    ((fresh window).run moves).memory.blocked now identity = false ↔
      block.time.shift limits.blockSpan ≤ now := by
  have made : block ∈ (fresh window).history moves := by
    rw [split]
    exact List.mem_append_right _ List.mem_cons_self
  have entry := undisturbed.entry_of_block made blocks
  have log := (fresh window).log_history moves
  rw [split] at log
  have same := log.onward.blockAt?_eq last notBefore
  change ((fresh window).run moves).memory.blockAt? now identity = _ at same
  rw [Memory.blocked_eq_isSome, same, Memory.blockAt?, entry, Option.filter_some]
  by_cases alive : now < block.time.shift limits.blockSpan
  · have notOver : ¬block.time.shift limits.blockSpan ≤ now := Nat.not_le_of_lt alive
    simp [alive, notOver]
  · have ended : block.time.shift limits.blockSpan ≤ now := Nat.le_of_not_lt alive
    simp [alive, ended]

end Undisturbed

/-- A block is authoritative for its whole length, whatever interleaves with it. A check that looks
after the block was set and before its length is over denies its client, reports one more than the
limit and that nothing remains, and makes no other call, and its lookup leaves the store alone. A
call that sets the block anew can only move its end on. The block is over exactly its length after
the last call that set it. -/
theorem block_authoritative (undisturbed : Undisturbed window limits moves) :
    let history := (fresh window).history moves
    let finish := (fresh window).run moves
    let limit := limits.limitFor identity
    ∀ earlier block later span, history = earlier ++ block :: later →
      block.operation = .block identity span →
        (∀ lookup ∈ later, lookup.operation = .isBlocked identity →
          lookup.time < block.time.shift limits.blockSpan →
            lookup.after = lookup.before ∧
            ∀ number, lookup.caller = some number →
              callsOf number history = [lookup] ∧
              (Move.strand number ∉ moves →
                ∃ decision, finish.returned? number = some decision ∧ decision.allowed = false ∧
                  decision.currentCount.toNat = min (limit.toNat + 1) (UInt64.size - 1) ∧
                  decision.remaining = 0)) ∧
        block.after.blocks.get? identity = some (block.time.shift limits.blockSpan) ∧
        (∀ expiry, block.before.blocks.get? identity = some expiry →
          expiry ≤ block.time.shift limits.blockSpan) ∧
        ((∀ call ∈ later, ∀ span, call.operation ≠ .block identity span) →
          ∀ now, finish.now ≤ now →
            (finish.memory.blocked now identity = false ↔
              block.time.shift limits.blockSpan ≤ now)) := by
  intro history finish limit earlier block later span split blocks
  refine ⟨?_, ?_, ?_, ?_⟩
  · intro lookup member looks inTime
    refine ⟨(undisturbed.found_of_block split blocks member looks inTime).2, ?_⟩
    intro number caller
    rcases undisturbed.denied_of_block split blocks member looks inTime caller with
      ⟨only, denied⟩
    refine ⟨only, fun unstranded => ⟨_, denied unstranded, rfl, ?_, ?_⟩⟩
    · exact Decision.countBeyond_toNat limit
    · exact Decision.remaining_ofBlocked identity limit
  · apply undisturbed.entry_of_block ?_ blocks
    rw [show (fresh window).history moves = _ from split]
    exact List.mem_append_right _ List.mem_cons_self
  · intro expiry entry
    exact undisturbed.entry_le_of_block split entry
  · intro last now notBefore
    exact undisturbed.lapsed_iff split blocks last notBefore

/-- Three checks look for a block before any of them counts, so that two of them set one, the second
five milliseconds after the first and after a reset. Another check looks within the first block, and
the last one when the first block would have been over. -/
def renewal : List Move :=
  [.arrive (serviceOf 1) "10.0.0.1" "", .arrive (serviceOf 1) "10.0.0.1" "",
    .arrive (serviceOf 1) "10.0.0.1" "", .proceed 0, .proceed 1, .proceed 2, .proceed 0, .proceed 1,
    .proceed 2, .proceed 1, .direct (.reset (.ip "10.0.0.1")), .pass (.ofMilliseconds 5),
    .proceed 2, .pass (.ofSeconds 299), .arrive (serviceOf 1) "10.0.0.1" "", .proceed 3,
    .pass (.ofMilliseconds 996), .arrive (serviceOf 1) "10.0.0.1" "", .proceed 4,
    .pass (.ofMilliseconds 4)]

theorem renewal_undisturbed :
    Undisturbed (.ofSeconds 1) (serviceOf 1).limits renewal where
  shared := by decide
  undirected := by simp [renewal]
  kept := by simp [renewal]
  windowFits := by decide
  blockFits := by decide

/-- Each of the blocks denies the check that looks within it, and the identity is free when the
second is over. -/
theorem block_authoritative_of_renewal :
    let finish := (fresh (.ofSeconds 1)).run renewal
    (∃ decision, finish.returned? 3 = some decision ∧ decision.allowed = false ∧
      decision.currentCount.toNat = 2 ∧ decision.remaining = 0) ∧
    (∃ decision, finish.returned? 4 = some decision ∧ decision.allowed = false ∧
      decision.currentCount.toNat = 2 ∧ decision.remaining = 0) ∧
    finish.memory.blocked finish.now (.ip "10.0.0.1") = false := by
  intro finish
  let history := (fresh (.ofSeconds 1)).history renewal
  have split (index : Nat) (inRange : index < history.length) :
      history = history.take index ++ history[index] :: history.drop (index + 1) := by
    rw [← List.drop_eq_getElem_cons, List.take_append_drop]
  have authority := @block_authoritative (.ofSeconds 1) (serviceOf 1).limits renewal
    (.ip "10.0.0.1") renewal_undisturbed
  have first := (authority _ history[6] _ (.ofSeconds 300) (split 6 (by decide)) (by decide)).1
  have second := authority _ history[8] _ (.ofSeconds 300) (split 8 (by decide)) (by decide)
  have last : ∀ call ∈ history.drop 9, ∀ span, call.operation ≠ .block (.ip "10.0.0.1") span := by
    have looks : ∀ call ∈ history.drop 9, call.operation = .isBlocked (.ip "10.0.0.1") := by decide
    intro call member span blocks
    rw [looks call member] at blocks
    cases blocks
  have third := first history[9] (List.mem_drop_iff_getElem.mpr ⟨2, by decide, rfl⟩) (by decide)
    (by decide)
  have fourth := second.1 history[10] (List.mem_drop_iff_getElem.mpr ⟨1, by decide, rfl⟩)
    (by decide) (by decide)
  refine ⟨(third.2 3 (by decide)).2 (by simp [renewal]), ?_, ?_⟩
  · exact (fourth.2 4 (by decide)).2 (by simp [renewal])
  · exact (second.2.2.2 last finish.now (Nat.le_refl _)).mpr (by decide)

end Traffic

end AdmissionControl

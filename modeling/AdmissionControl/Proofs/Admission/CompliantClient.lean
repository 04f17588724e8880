import AdmissionControl.Proofs.Admission.Transcript
import AdmissionControl.Proofs.Store.Blocks
import AdmissionControl.Proofs.Store.Lifetimes
import Mathlib.Data.List.Basic

/-!
# Compliant clients

A client whose requests stay within its limit in every span of one window is never denied, whatever
all others do (`Traffic.compliant_never_denied`).

The windows of the store begin with a raise and not at any point that the client may choose. Since
the client keeps to its limit in all spans, it keeps to it in these, so no raise answers a count
beyond the limit, no check of the client sets a block, and no lookup finds one.
-/

namespace AdmissionControl

namespace Traffic

variable {window : Duration} {limits : Limits} {moves : List Move} {identity : Identity}
  {number : Nat}

/-- An identity whose counts are all within its limit is blocked by none of its checks. -/
theorem unblocked_of_counts_within (shared : SharedLimits limits moves)
    (undirected : ∀ span, Move.direct (.block identity span) ∉ moves)
    (within : ∀ raise ∈ (fresh window).history moves, ∀ count,
      raise.countFor? identity = some count → count ≤ limits.limitFor identity) :
    ∀ call ∈ (fresh window).history moves, ∀ span, call.operation ≠ .block identity span := by
  intro call made span blocks
  rcases made_by shared made with ⟨_, direct⟩ | ⟨number, subject, state, caller, _, transcript⟩
  · rw [blocks] at direct
    exact undirected span direct
  · rcases transcript.excess_of_block (mem_callsOf.mpr ⟨made, caller⟩) blocks with
      ⟨same, _, raise, raised, count, counted, beyond⟩
    change identity = subject at same
    subst same
    exact beyond (within raise (mem_callsOf.mp raised).1 count counted)

/-- A compliant client is never denied. No block of it ever exists, and each of its checks that
returns a decision lets it proceed, with a count from one to the limit. -/
theorem compliant_never_denied (positive : 0 < window.nanoseconds)
    (shared : SharedLimits limits moves)
    (undirected : ∀ span, Move.direct (.block identity span) ∉ moves)
    (compliant : IsCompliant identity (limits.limitFor identity) window
      ((fresh window).history moves)) :
    (∀ earlier later, moves = earlier ++ later →
      ((fresh window).run earlier).memory.blocks.get? identity = none) ∧
    ∀ flight ∈ ((fresh window).run moves).flights, flight.check.identity = identity →
      ∀ decision, flight.state = .finished (.answered (.ok decision)) →
        decision.allowed ∧ 1 ≤ decision.currentCount.toNat ∧
          decision.currentCount ≤ limits.limitFor identity := by
  have log := (fresh window).log_history moves
  have covered : (fresh window).moment.CoveredBy [] identity := fun _ live => nomatch live
  have counts : ∀ raise ∈ (fresh window).history moves, ∀ count,
      raise.countFor? identity = some count →
        1 ≤ count.toNat ∧ count ≤ limits.limitFor identity := by
    intro raise made count counted
    rw [UInt64.le_iff_toNat_le]
    exact log.count_le_of_compliant positive covered compliant made counted
  have unblocked := unblocked_of_counts_within shared undirected
    (fun raise made count counted => (counts raise made count counted).2)
  constructor
  · rintro earlier later rfl
    apply ((fresh window).log_history earlier).blocks_none rfl
    intro call made
    rw [history_append] at unblocked
    exact unblocked call (List.mem_append_left _ made)
  · rintro flight member rfl decision decided
    rcases List.getElem?_of_mem member with ⟨number, held⟩
    have transcript := transcript_of_held shared held
    rw [decided] at transcript
    have recorded {call : StoreCall}
        (own : call ∈ callsOf number ((fresh window).history moves)) :
        call ∈ (fresh window).history moves := (mem_callsOf.mp own).1
    rcases transcript.of_decided with
      ⟨lookup, calls, found, _⟩ | ⟨lookup, raise, others, count, calls, _, counted, _, rfl⟩
    · have made : lookup ∈ (fresh window).history moves := recorded (by simp [calls])
      have free : lookup.before.blocks.get? flight.check.identity = none :=
        log.blocks_none_before rfl unblocked made
      have answer := (StoreCall.lookup_of_found? (log.performed made) found).1
      change true = (lookup.before.blockAt? _ flight.check.identity).isSome at answer
      simp [Memory.blockAt?, free] at answer
    · have made : raise ∈ (fresh window).history moves := recorded (by simp [calls])
      rcases counts raise made count counted with ⟨atLeast, atMost⟩
      exact ⟨decide_eq_true atMost, atLeast, atMost⟩

/-- One client makes a request in each of two windows. Another makes two requests in the first and
is blocked. -/
def neighbours : List Move :=
  [.arrive (serviceOf 1) "10.0.0.1" "", .arrive (serviceOf 1) "10.0.0.2" "",
    .arrive (serviceOf 1) "10.0.0.2" "", .proceed 0, .proceed 1, .proceed 2, .proceed 1, .proceed 2,
    .proceed 0, .proceed 2, .pass (.ofSeconds 1), .arrive (serviceOf 1) "10.0.0.1" "", .proceed 3,
    .proceed 3]

/-- The first client keeps to its limit: a span of one window that has its first request ends before
its second. -/
theorem neighbours_compliant :
    IsCompliant (.ip "10.0.0.1") 1 (.ofSeconds 1) ((fresh (.ofSeconds 1)).history neighbours) := by
  rintro ⟨since⟩
  rcases since with _ | since
  · decide
  · have later : ∀ call : StoreCall,
        (call.raises (.ip "10.0.0.1") && decide ((⟨since + 1⟩ : Instant) ≤ call.time) &&
          decide (call.time < Instant.shift ⟨since + 1⟩ (.ofSeconds 1))) = true →
        (call.raises (.ip "10.0.0.1") && decide (0 < call.time.nanoseconds)) = true := by
      intro call inside
      simp only [Bool.and_eq_true, decide_eq_true_eq, Instant.le_iff] at inside ⊢
      exact ⟨inside.1.1, Nat.lt_of_lt_of_le (Nat.succ_pos since) inside.1.2⟩
    exact Nat.le_trans (List.monotone_filter_right _ later).length_le (by decide)

theorem compliant_never_denied_beside_blocked :
    let finish := (fresh (.ofSeconds 1)).run neighbours
    finish.memory.blocks.get? (.ip "10.0.0.2") = some ⟨300000000000⟩ ∧
      finish.memory.blocks.get? (.ip "10.0.0.1") = none ∧
      ∃ decision, finish.returned? 3 = some decision ∧ decision.allowed ∧
        1 ≤ decision.currentCount.toNat ∧ decision.currentCount ≤ 1 := by
  intro finish
  have undenied := @compliant_never_denied (.ofSeconds 1) (serviceOf 1).limits neighbours
    (.ip "10.0.0.1") (by decide) (by decide) (by simp [neighbours]) neighbours_compliant
  have last : finish.flights[3]? = some ⟨(serviceOf 1).check "10.0.0.1" "",
      .finished (.answered (.ok (.ofCount (.ip "10.0.0.1") 1 1)))⟩ := rfl
  exact ⟨rfl, undenied.1 neighbours [] (by simp), _, rfl,
    undenied.2 _ (List.mem_of_getElem? last) rfl _ rfl⟩

end Traffic

end AdmissionControl

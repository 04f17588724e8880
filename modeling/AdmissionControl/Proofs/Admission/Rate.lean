import AdmissionControl.Proofs.Admission.Transcript
import AdmissionControl.Proofs.Store.Lifetimes
import Mathlib.Data.List.Nodup
import Mathlib.Data.List.Perm.Subperm

/-!
# The rate of admission

How many clients any number of services let proceed, whatever the order in which their checks call
the store and whichever of the checks are given up on the way.

A client proceeds only after a raise that answered a count within the limit, and each check raises
the counter once. The clients that proceed are therefore at most the raises within the limit, and
those are counted in the log of the store: at most the limit in one lifetime of a counter
(`Traffic.lifetime_within_limit`), and at most one limit more than whole windows in any span of time
(`Traffic.admitted_le_of_span`). That a lookup and the raise after it are two calls admits nobody
beyond this: a check that should have found a block still gets a count beyond the limit.
-/

namespace AdmissionControl

namespace Traffic

variable {window : Duration} {limits : Limits} {moves : List Move} {identity : Identity}
  {number : Nat}

/-- A check that raised a counter decides by its count. -/
theorem decision_of_raise (shared : SharedLimits limits moves) {raise : StoreCall} {count : UInt64}
    {decision : Decision} (made : raise ∈ (fresh window).history moves)
    (counted : raise.countFor? identity = some count) (caller : raise.caller = some number)
    (returned : ((fresh window).run moves).returned? number = some decision) :
    decision = .ofCount identity (limits.limitFor identity) count := by
  rcases made_by shared made with ⟨direct, _⟩ | ⟨maker, subject, state, madeBy, held, transcript⟩
  · rw [caller] at direct
    cases direct
  · rw [caller] at madeBy
    cases madeBy
    rcases returned?_eq_some_iff.mp returned with ⟨check, finished⟩
    rw [held] at finished
    cases finished
    have own : raise ∈ callsOf number ((fresh window).history moves) :=
      mem_callsOf.mpr ⟨made, caller⟩
    rcases transcript.of_decided with
      ⟨lookup, calls, found, _⟩ | ⟨lookup, first, others, more, calls, found, raised, after, rfl⟩
    · rw [calls, List.mem_singleton] at own
      rw [← own, StoreCall.found?_of_countFor? counted] at found
      cases found
    · rw [calls] at own
      rcases List.mem_cons.mp own with rfl | own
      · rw [StoreCall.found?_of_countFor? counted] at found
        cases found
      rcases List.mem_cons.mp own with rfl | other
      · rcases StoreCall.countFor?_unique counted raised with ⟨rfl, rfl⟩
        rfl
      · have blocks := (after raise other).2
        rw [StoreCall.operation_of_countFor? counted] at blocks
        cases blocks

/-- The clients that proceed after some raises are at most those of the raises that answered a count
within the limit. -/
theorem admittedBy_length_le (shared : SharedLimits limits moves) {raises : List StoreCall}
    (made : ∀ raise ∈ raises, raise ∈ (fresh window).history moves ∧ raise.raises identity) :
    (((fresh window).run moves).admittedBy raises).length ≤
      (grantsOf identity (limits.limitFor identity) raises).length := by
  have distinct : ((((fresh window).run moves).admittedBy raises).map some).Nodup :=
    List.Nodup.map (fun _ _ => Option.some.inj) (List.Nodup.filter _ List.nodup_range)
  have granted : (((fresh window).run moves).admittedBy raises).map some ⊆
      (grantsOf identity (limits.limitFor identity) raises).map StoreCall.caller := by
    intro caller member
    rcases List.mem_map.mp member with ⟨number, admitted, rfl⟩
    have proceeds := (List.mem_filter.mp admitted).2
    simp only [allows, Bool.and_eq_true, Option.any_eq_true, List.any_eq_true,
      decide_eq_true_eq] at proceeds
    rcases proceeds with ⟨⟨decision, returned, allowed⟩, raise, member, caller⟩
    rcases made raise member with ⟨recorded, raised⟩
    rcases StoreCall.raises_iff.mp raised with ⟨count, counted⟩
    rw [decision_of_raise shared recorded counted caller returned] at allowed
    refine List.mem_map.mpr ⟨raise, List.mem_filter.mpr ⟨member, ?_⟩, caller⟩
    rw [counted]
    exact allowed
  have length := (List.subperm_of_subset distinct granted).length_le
  simpa using length

theorem unreset_of_not_direct (shared : SharedLimits limits moves)
    (unreset : Move.direct (.reset identity) ∉ moves) :
    ∀ call ∈ (fresh window).history moves, call.operation ≠ .reset identity := by
  intro call made resets
  apply unreset
  apply is_direct shared made resets
  intro check phase
  cases phase <;> exact nofun

/-- Each lifetime of a counter admits no more clients than its limit, under any concurrency. Every
increment that reaches the store falls into a lifetime. The answers within a lifetime are the
numbers from one on, in the order in which the raises took effect. A check that decides by its raise
lets its client proceed if and only if the count is within the limit. -/
theorem lifetime_within_limit (positive : 0 < window.nanoseconds)
    (shared : SharedLimits limits moves) (unreset : Move.direct (.reset identity) ∉ moves)
    (few : (raisesOf identity ((fresh window).history moves)).length < UInt64.size) :
    let history := (fresh window).history moves
    let finish := (fresh window).run moves
    let limit := limits.limitFor identity
    (∀ call ∈ history, call.operation = .increment identity → call.before.obstacle? = none →
      (call.time.shift window).nanoseconds < Instant.horizon →
        ∃ lifetime, IsLifetime identity window history lifetime ∧ call ∈ lifetime) ∧
    ∀ lifetime, IsLifetime identity window history lifetime →
      (lifetime.filterMap fun raise => raise.countFor? identity).map UInt64.toNat =
          List.range' 1 lifetime.length ∧
        (∀ raise ∈ lifetime, ∀ number decision, raise.caller = some number →
          finish.returned? number = some decision →
            raise.countFor? identity = some decision.currentCount ∧
              (decision.allowed ↔ decision.currentCount ≤ limit)) ∧
        (finish.admittedBy lifetime).length ≤ limit.toNat := by
  intro history finish limit
  have log : StoreLog (fresh window).moment history finish.moment :=
    (fresh window).log_history moves
  have unresetCalls : ∀ call ∈ history, call.operation ≠ .reset identity :=
    unreset_of_not_direct shared unreset
  constructor
  · intro call made increments reachable windowFits
    have raised : call.raises identity := by
      apply StoreCall.raises_of_open (log.performed made) increments reachable
      rw [log.window_before made]
      exact windowFits
    have known : (fresh window).moment.OpenedIn [] identity := fun _ live => nomatch live
    exact log.exists_lifetime positive unresetCalls known made raised
  · intro lifetime isLifetime
    have within : ∀ raise ∈ lifetime, raise ∈ history ∧ raise.raises identity := by
      rcases isLifetime with ⟨earlier, opening, later, split, opens, rfl⟩
      intro raise member
      rcases mem_raisesBetween.mp member with ⟨recorded, raised, _⟩
      exact ⟨split ▸ List.mem_append_right _ recorded, raised⟩
    refine ⟨log.counts_of_lifetime positive unresetCalls few isLifetime, ?_, ?_⟩
    · intro raise member number decision caller returned
      rcases within raise member with ⟨made, raised⟩
      rcases StoreCall.raises_iff.mp raised with ⟨count, counted⟩
      rw [decision_of_raise shared made counted caller returned]
      exact ⟨counted, by simp [Decision.ofCount, limit]⟩
    · exact Nat.le_trans (admittedBy_length_le shared within)
        (log.grants_le_of_lifetime positive unresetCalls few isLifetime)

/-- Two checks of one address that both look for a block before either raises the counter. The check
that comes too late is given up before it sets the block. -/
def race : List Move :=
  [.arrive (serviceOf 1) "10.0.0.1" "", .arrive (serviceOf 1) "10.0.0.1" "", .proceed 0, .proceed 1,
    .proceed 0, .pass (.ofMilliseconds 5), .proceed 1, .cancel 1]

theorem lifetime_within_limit_of_race :
    let history := (fresh (.ofSeconds 1)).history race
    ∃ lifetime, IsLifetime (.ip "10.0.0.1") (.ofSeconds 1) history lifetime ∧
      (lifetime.filterMap fun raise => raise.countFor? (.ip "10.0.0.1")).map UInt64.toNat = [1, 2] ∧
      (((fresh (.ofSeconds 1)).run race).admittedBy lifetime).length ≤ 1 := by
  intro history
  have within := @lifetime_within_limit (.ofSeconds 1) (serviceOf 1).limits race (.ip "10.0.0.1")
    (by decide) (by decide) (by simp [race]) (by decide)
  have isLifetime : IsLifetime (.ip "10.0.0.1") (.ofSeconds 1) history (history.drop 2) :=
    ⟨history.take 2, history[2], history.drop 3, rfl, ⟨rfl, rfl⟩,
      (List.filter_eq_self.mpr (by decide)).symm⟩
  rcases within.2 _ isLifetime with ⟨counts, _, admitted⟩
  refine ⟨history.drop 2, isLifetime, ?_, admitted⟩
  rw [counts]
  rfl

/-- In any span of some whole windows the clients that proceed are at most the limit once for each
window and once more, wherever the span begins and whatever else happens to the store. -/
theorem admitted_le_of_span (positive : 0 < window.nanoseconds)
    (shared : SharedLimits limits moves) (unreset : Move.direct (.reset identity) ∉ moves)
    (few : (raisesOf identity ((fresh window).history moves)).length < UInt64.size)
    (since : Instant) (windows : Nat) :
    (((fresh window).run moves).admittedBy
        (raisesBetween identity since (since.shift ⟨windows * window.nanoseconds⟩)
          ((fresh window).history moves))).length ≤
      (windows + 1) * (limits.limitFor identity).toNat := by
  have log := (fresh window).log_history moves
  have within : ∀ raise ∈ raisesBetween identity since
      (since.shift ⟨windows * window.nanoseconds⟩) ((fresh window).history moves),
      raise ∈ (fresh window).history moves ∧ raise.raises identity := by
    intro raise member
    rcases mem_raisesBetween.mp member with ⟨made, raised, _⟩
    exact ⟨made, raised⟩
  have nothing : (fresh window).moment.tally identity = 0 := rfl
  refine Nat.le_trans (admittedBy_length_le shared within) ?_
  apply log.grants_le_of_span positive (unreset_of_not_direct shared unreset)
  · rw [nothing, Nat.zero_add]
    exact few
  · exact Nat.le_refl _

/-- Four checks of one address around the end of a window, one after the other. -/
def boundary : List Move :=
  [.arrive (serviceOf 2) "10.0.0.1" "", .proceed 0, .proceed 0, .pass (.ofMilliseconds 900),
    .arrive (serviceOf 2) "10.0.0.1" "", .proceed 1, .proceed 1, .pass (.ofMilliseconds 100),
    .arrive (serviceOf 2) "10.0.0.1" "", .proceed 2, .proceed 2,
    .arrive (serviceOf 2) "10.0.0.1" "", .proceed 3, .proceed 3]

/-- Around the end of a window more clients than the limit may proceed within the length of one. -/
theorem admitted_le_of_span_at_boundary :
    let admitted := ((fresh (.ofSeconds 1)).run boundary).admittedBy
      (raisesBetween (.ip "10.0.0.1") ⟨900000000⟩ ⟨1900000000⟩
        ((fresh (.ofSeconds 1)).history boundary))
    admitted = [1, 2, 3] ∧ admitted.length ≤ 2 * 2 :=
  ⟨by decide,
    @admitted_le_of_span (.ofSeconds 1) (serviceOf 2).limits boundary (.ip "10.0.0.1") (by decide)
      (by decide) (by simp [boundary]) (by decide) ⟨900000000⟩ 1⟩

end Traffic

end AdmissionControl

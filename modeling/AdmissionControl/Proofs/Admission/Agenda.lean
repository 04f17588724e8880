import AdmissionControl.Proofs.Admission.Course
import AdmissionControl.Proofs.Store.Footprint

/-!
# The calls of one check

From each of its phases on a check has an agenda: the calls that it may still make, each once and in
a fixed order. Whatever the store answers, and whenever, the calls that a check makes are the
beginning of its agenda, and it makes the first of them at once (`Check.makes_of_run`).
-/

namespace AdmissionControl

variable {Contents : Type}

/-- However a call ends, its caller goes on no earlier than it asked. -/
theorem Timeline.now_le_after {timeline after : Timeline Contents} {store : CounterStore Contents}
    {deadline : Option Instant} {operation : Operation} {reception : Reception operation.Result}
    (begun : ∀ last ∈ deadline, timeline.now ≤ last)
    (called : timeline.call store deadline operation = (reception, after)) :
    timeline.now ≤ after.now := by
  simp only [call] at called
  split at called
  · cases called
    exact Nat.le_refl _
  · cases called
    exact timeline.now.le_alarm _
  · split at called
    · cases called
      exact timeline.now.le_alarm _
    · cases called
      exact begun _ rfl
  · cases called
    exact Nat.le_refl _
  · cases called
    exact begun _ rfl

namespace Check

variable {check : Check} {store : CounterStore Contents} {deadline : Option Instant} {phase : Phase}
  {timeline between after : Timeline Contents} {reception : Reception Decision}
  {made : List (Instant × Operation)}

/-- The calls that a check can still make, in their order. -/
def agenda (check : Check) : Phase → List Operation
  | .lookup => [.isBlocked check.identity, .increment check.identity,
      .block check.identity check.blockSpan]
  | .count => [.increment check.identity, .block check.identity check.blockSpan]
  | .block _ => [.block check.identity check.blockSpan]

theorem agenda_of_waiting {result : (check.operation phase).Result} {next : Phase}
    {later : next.callsLeft < phase.callsLeft}
    (progress : check.advance phase result = .waiting next later) :
    check.agenda phase = check.operation phase :: check.agenda next := by
  cases phase with
  | lookup =>
      cases result with
      | true => cases progress
      | false =>
          cases progress
          rfl
  | count =>
      simp only [advance] at progress
      split at progress
      · cases progress
      · cases progress
        rfl
  | block count => cases progress

/-- A check that came to a phase made these calls from there to its end: the one that it came to,
and what else of its agenda it got to. -/
structure Makes (check : Check) (store : CounterStore Contents) (phase : Phase)
    (before after : Timeline Contents) (made : List (Instant × Operation)) : Prop where
  footprint : before.Footprint store after made
  inTurn : made.map Prod.snd <+: check.agenda phase
  atOnce : made.head? = some (before.now, check.operation phase)
  onward : before.now ≤ after.now
  meanwhile : ∀ call ∈ made, before.now ≤ call.1 ∧ call.1 ≤ after.now

namespace Makes

/-- A check may end with the call that it came to. -/
theorem single {called : Reception (check.operation phase).Result}
    (begun : ∀ last ∈ deadline, timeline.now ≤ last)
    (call : timeline.call store deadline (check.operation phase) = (called, after)) :
    check.Makes store phase timeline after [(timeline.now, check.operation phase)] where
  footprint := Timeline.footprint_of_call call
  inTurn := by
    cases phase with
    | lookup => exact ⟨[.increment check.identity, .block check.identity check.blockSpan], rfl⟩
    | count => exact ⟨[.block check.identity check.blockSpan], rfl⟩
    | block count => exact ⟨[], rfl⟩
  atOnce := rfl
  onward := Timeline.now_le_after begun call
  meanwhile := by
    intro made member
    cases List.mem_singleton.mp member
    exact ⟨Nat.le_refl _, Timeline.now_le_after begun call⟩

/-- The call that a check came to is followed by those of the phase that it leads to. -/
theorem cons {result : (check.operation phase).Result} {next : Phase}
    {later : next.callsLeft < phase.callsLeft}
    (begun : ∀ last ∈ deadline, timeline.now ≤ last)
    (call : timeline.call store deadline (check.operation phase) =
      (.answered (.ok result), between))
    (progress : check.advance phase result = .waiting next later)
    (rest : check.Makes store next (between.logAll (check.announcement next)) after made) :
    check.Makes store phase timeline after ((timeline.now, check.operation phase) :: made) where
  footprint := by
    have first := Timeline.footprint_of_call call
    exact first.trans (rest.footprint.congr rfl rfl)
  inTurn := by
    rw [agenda_of_waiting progress]
    exact (List.prefix_cons_inj _).mpr rest.inTurn
  atOnce := rfl
  onward := Nat.le_trans (Timeline.now_le_after begun call) rest.onward
  meanwhile := by
    have asked := Timeline.now_le_after begun call
    intro other member
    rcases List.mem_cons.mp member with rfl | member
    · exact ⟨Nat.le_refl _, Nat.le_trans asked rest.onward⟩
    · have within := rest.meanwhile other member
      exact ⟨Nat.le_trans asked within.1, within.2⟩

end Makes

theorem makes_of_run (begun : ∀ last ∈ deadline, timeline.now ≤ last)
    (ran : check.runFrom store deadline phase timeline = (reception, after)) :
    ∃ made, check.Makes store phase timeline after made := by
  fun_induction check.runFrom store deadline phase timeline with
  | case1 phase timeline result between call decision progress =>
      cases ran
      exact ⟨_, .single begun call⟩
  | case2 phase timeline result between call next later progress ih =>
      have answered := Timeline.now_le_of_call begun call
      rcases ih answered ran with ⟨made, rest⟩
      exact ⟨_, .cons begun call progress rest⟩
  | case3 phase timeline failure between call =>
      cases ran
      exact ⟨_, .single begun call⟩
  | case4 phase timeline between call =>
      cases ran
      exact ⟨_, .single begun call⟩
  | case5 phase timeline between call =>
      cases ran
      exact ⟨_, .single begun call⟩

end Check

/-- Whatever a service decides, it made the beginning of one agenda, and began at once. -/
theorem Service.makes_of_decideOn (service : Service) (store : CounterStore Contents)
    (address token : String) (timeline : Timeline Contents) :
    ∃ made, (service.check address token).Makes store .lookup timeline
      (service.decideOn store address token timeline).2 made := by
  rw [decideOn_eq]
  exact Check.makes_of_run le_deadline rfl

end AdmissionControl

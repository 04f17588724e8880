import AdmissionControl.Store.CounterStore

/-!
# What a course of events asks of its store

Two points in a course of events differ, as far as the store goes, by the calls that were made
between them: they stand at the end of the list of calls, and the store holds what they left in it.
`Timeline.Footprint` says so. Footprints are joined end to end (`Footprint.trans`), and one call
leaves a footprint of one, whatever becomes of its answer (`footprint_of_call`).
-/

namespace AdmissionControl

variable {Contents : Type}

/-- What a store holds after some calls, each made at its own time. -/
def CounterStore.replay (store : CounterStore Contents) (contents : Contents)
    (made : List (Instant × Operation)) : Contents :=
  made.foldl (fun contents call => (store.perform call.2 call.1 contents).2) contents

/-- What every one of some calls leaves alone is left alone by all of them. -/
theorem CounterStore.replay_view {View : Type} {store : CounterStore Contents}
    {view : Contents → View} {made : List (Instant × Operation)}
    (leaves : ∀ call ∈ made, ∀ contents,
      view (store.perform call.2 call.1 contents).2 = view contents) (contents : Contents) :
    view (store.replay contents made) = view contents := by
  induction made generalizing contents with
  | nil => rfl
  | cons call rest ih =>
      have first := leaves call List.mem_cons_self contents
      exact (ih (fun other member => leaves other (List.mem_cons_of_mem _ member)) _).trans first

namespace Timeline

/-- A course of events without its log. -/
def unlogged (timeline : Timeline Contents) : Timeline Contents :=
  { timeline with events := [] }

@[simp]
theorem unlogged_log (timeline : Timeline Contents) (event : LogEvent) :
    (timeline.log event).unlogged = timeline.unlogged := rfl

@[simp]
theorem unlogged_logAll (timeline : Timeline Contents) (events : List LogEvent) :
    (timeline.logAll events).unlogged = timeline.unlogged := rfl

theorem now_of_unlogged {first second : Timeline Contents}
    (same : first.unlogged = second.unlogged) : first.now = second.now := by
  have now := congrArg Timeline.now same
  exact now

variable {timeline before between after : Timeline Contents} {store : CounterStore Contents}
  {operation : Operation} {made more : List (Instant × Operation)}

/-- Between two points in a course of events these calls were made, and nothing else changed what
the store holds. -/
structure Footprint (store : CounterStore Contents) (before after : Timeline Contents)
    (made : List (Instant × Operation)) : Prop where
  calls : after.calls = before.calls ++ made
  contents : after.contents = store.replay before.contents made

namespace Footprint

theorem refl (timeline : Timeline Contents) : timeline.Footprint store timeline [] :=
  ⟨(List.append_nil _).symm, rfl⟩

theorem trans (first : before.Footprint store between made)
    (second : between.Footprint store after more) :
    before.Footprint store after (made ++ more) where
  calls := by rw [second.calls, first.calls, List.append_assoc]
  contents := by
    rw [second.contents, first.contents, CounterStore.replay, CounterStore.replay,
      CounterStore.replay, List.foldl_append]

/-- What is logged is nothing to the store. -/
theorem congr {start finish : Timeline Contents} (footprint : before.Footprint store after made)
    (sameStart : start.unlogged = before.unlogged) (sameFinish : finish.unlogged = after.unlogged) :
    start.Footprint store finish made where
  calls := by
    have first := congrArg Timeline.calls sameStart
    have last := congrArg Timeline.calls sameFinish
    exact last.trans (footprint.calls.trans (congrArg (· ++ made) first.symm))
  contents := by
    have first := congrArg Timeline.contents sameStart
    have last := congrArg Timeline.contents sameFinish
    exact last.trans (footprint.contents.trans (congrArg (store.replay · made) first.symm))

/-- A store does not notice how late it is. -/
theorem of_moveTo {now : Instant} (footprint : (before.moveTo now).Footprint store after made) :
    before.Footprint store after made :=
  ⟨footprint.calls, footprint.contents⟩

end Footprint

theorem footprint_of_call {deadline : Option Instant} {reception : Reception operation.Result}
    (called : timeline.call store deadline operation = (reception, after)) :
    timeline.Footprint store after [(timeline.now, operation)] := by
  have change : after.calls = timeline.calls ++ [(timeline.now, operation)] ∧
      after.contents = (store.perform operation timeline.now timeline.contents).2 := by
    simp only [call] at called
    split at called
    · cases called
      exact ⟨rfl, rfl⟩
    · cases called
      exact ⟨rfl, rfl⟩
    · split at called
      · cases called
        exact ⟨rfl, rfl⟩
      · cases called
        exact ⟨rfl, rfl⟩
    · cases called
      exact ⟨rfl, rfl⟩
    · cases called
      exact ⟨rfl, rfl⟩
  exact ⟨change.1, change.2⟩

end Timeline

end AdmissionControl

import AdmissionControl.Proofs.Admission.Course

/-!
# Stores that answer alike

Two stores answer alike as long as their contents are related: whatever is permitted gets the same
answer at both, as soon at the one as at the other, and leaves related contents
(`CounterStore.Matches`). Nobody who makes permitted calls only can then tell the two apart, neither
by one call nor by a whole check, whatever its time limit.

The relation is between contents at one time, so both sides are followed from the same moment on
(`Timeline.Related`).
-/

namespace AdmissionControl

variable {First Second : Type}

/-- Related contents get the same answers to permitted operations, and stay related. -/
def CounterStore.Matches (first : CounterStore First) (second : CounterStore Second)
    (related : First → Second → Prop) (permitted : Operation → Prop) : Prop :=
  ∀ (operation : Operation) (now : Instant) (left : First) (right : Second),
    permitted operation → related left right →
      (first.perform operation now left).1 = (second.perform operation now right).1 ∧
        related (first.perform operation now left).2 (second.perform operation now right).2

/-- Two courses of events are at the same time, and their stores are related. -/
structure Timeline.Related (related : First → Second → Prop) (left : Timeline First)
    (right : Timeline Second) : Prop where
  now : left.now = right.now
  contents : related left.contents right.contents

/-- Two things had the same result, and left related courses of events. -/
structure Alike {α : Type} (related : First → Second → Prop) (left : α × Timeline First)
    (right : α × Timeline Second) : Prop where
  result : left.1 = right.1
  after : Timeline.Related related left.2 right.2

variable {first : CounterStore First} {second : CounterStore Second}
  {related : First → Second → Prop} {permitted : Operation → Prop} {left : Timeline First}
  {right : Timeline Second} {deadline : Option Instant}

namespace Timeline.Related

theorem logAll (pair : left.Related related right) (events : List LogEvent) :
    (left.logAll events).Related related (right.logAll events) :=
  ⟨pair.now, pair.contents⟩

theorem call {operation : Operation} (pair : left.Related related right)
    (matching : first.Matches second related permitted) (allowed : permitted operation) :
    Alike related (left.call first deadline operation) (right.call second deadline operation) := by
  rcases left with ⟨now, leftContents, leftCalls, leftEvents⟩
  rcases right with ⟨_, rightContents, rightCalls, rightEvents⟩
  rcases pair with ⟨rfl, contents⟩
  rcases matching operation now leftContents rightContents allowed contents with ⟨same, onward⟩
  simp only [Timeline.call, ← same]
  -- The one answer is due at the same time on both sides, or on neither.
  cases (first.perform operation now leftContents).1 with
  | answers wait answer =>
      cases wait with
      | none => exact ⟨rfl, rfl, onward⟩
      | some wait =>
          cases deadline with
          | none => exact ⟨rfl, rfl, onward⟩
          | some limit =>
              by_cases ready : now.alarm wait ≤ limit
              · simp only [if_pos ready]
                exact ⟨rfl, rfl, onward⟩
              · simp only [if_neg ready]
                exact ⟨rfl, rfl, onward⟩
  | hangs => cases deadline <;> exact ⟨rfl, rfl, onward⟩

end Timeline.Related

theorem Check.runFrom_alike {check : Check} {phase : Phase} {left : Timeline First}
    {right : Timeline Second} (pair : left.Related related right)
    (matching : first.Matches second related permitted)
    (allowed : ∀ phase, permitted (check.operation phase)) :
    Alike related (check.runFrom first deadline phase left)
      (check.runFrom second deadline phase right) := by
  have called : Alike related (left.call first deadline (check.operation phase))
      (right.call second deadline (check.operation phase)) :=
    pair.call matching (allowed phase)
  rcases leftCall : left.call first deadline (check.operation phase) with ⟨heard, leftAfter⟩
  rcases rightCall : right.call second deadline (check.operation phase) with ⟨other, rightAfter⟩
  rw [leftCall, rightCall] at called
  rcases called with ⟨same, after⟩
  simp only at same
  subst same
  rw [Check.runFrom, leftCall, Check.runFrom, rightCall]
  cases heard with
  | answered answer =>
      cases answer with
      | error failure => exact ⟨rfl, after⟩
      | ok result =>
          simp only
          cases check.advance phase result with
          | decided decision => exact ⟨rfl, after⟩
          | waiting next later =>
              exact Check.runFrom_alike (after.logAll (check.announcement next)) matching allowed
  | expired => exact ⟨rfl, after⟩
  | unanswered => exact ⟨rfl, after⟩
termination_by phase.callsLeft

namespace Service

theorem request_alike {operation : Operation} (pair : left.Related related right)
    (matching : first.Matches second related permitted) (allowed : permitted operation) :
    Alike related (request first operation left) (request second operation right) := by
  have called : Alike related (left.call first none operation)
      (right.call second none operation) := pair.call matching allowed
  rcases leftCall : left.call first none operation with ⟨heard, leftAfter⟩
  rcases rightCall : right.call second none operation with ⟨other, rightAfter⟩
  rw [leftCall, rightCall] at called
  rcases called with ⟨same, after⟩
  simp only at same
  subst same
  simp only [request, leftCall, rightCall]
  cases heard <;> exact ⟨rfl, after⟩

theorem decideOn_alike {service : Service} {address token : String}
    (pair : left.Related related right) (matching : first.Matches second related permitted)
    (allowed : ∀ phase, permitted ((service.check address token).operation phase)) :
    Alike related (service.decideOn first address token left)
      (service.decideOn second address token right) := by
  have ran : Alike related
      ((service.check address token).run first (service.deadline left.now) left)
      ((service.check address token).run second (service.deadline left.now) right) :=
    Check.runFrom_alike pair matching allowed
  rw [decideOn_eq, decideOn_eq, ← pair.now]
  exact ⟨congrArg service.conclude ran.result, ran.after⟩

end Service

end AdmissionControl

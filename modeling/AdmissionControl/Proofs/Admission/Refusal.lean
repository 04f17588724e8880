import AdmissionControl.Proofs.Admission.Course
import AdmissionControl.Proofs.Admission.Request

/-!
# Stores that refuse everything

A store refuses everything if it answers each operation with one and the same fault and stays as it
is; only closing is another matter (`CounterStore.Refuses`). A check that is under way hears the
fault at its next call, and so does whoever is asked for anything from then on, whatever the time
limits: a refusal comes at once. Nobody ever makes a decision out of it.

A store that was closed refuses everything for good (`CounterStore.Shut`).
-/

namespace AdmissionControl

variable {Contents : Type}

namespace CounterStore

/-- With these contents a store refuses everything but to be closed. -/
structure Refuses (store : CounterStore Contents) (fault : Fault) (contents : Contents) : Prop where
  fails : ∀ operation now, operation ≠ .close →
    store.perform operation now contents = (.answers none (.error (.reported fault)), contents)
  closes : ∀ now, (store.perform .close now contents).1 = .answers none (.ok ())

/-- With these contents a store is closed, and closing it once more does nothing. -/
structure Shut (store : CounterStore Contents) (contents : Contents) : Prop where
  refuses : store.Refuses .storeClosed contents
  remains : ∀ now, (store.perform .close now contents).2 = contents

end CounterStore

/-- What becomes of a request to a service whose store refuses everything but to be closed. -/
def Request.refused (fault : Fault) : (request : Request) → Completion request.Result
  | .call .close => .answered (.ok ())
  | _ => .answered (.error (.reported fault))

variable {store : CounterStore Contents} {fault : Fault} {timeline : Timeline Contents}

/-- A call that is answered at once is heard, whatever the deadline. -/
theorem Timeline.call_at_once {operation : Operation} {answer : Answer operation.Result}
    (deadline : Option Instant)
    (answered : (store.perform operation timeline.now timeline.contents).1 =
      .answers none answer) :
    ∃ after, timeline.call store deadline operation = (.answered answer, after) ∧
      after.contents = (store.perform operation timeline.now timeline.contents).2 := by
  simp only [call, answered]
  exact ⟨_, rfl, rfl⟩

namespace CounterStore

theorem Refuses.call {operation : Operation} (refuses : store.Refuses fault timeline.contents)
    (deadline : Option Instant) (kept : operation ≠ .close) :
    ∃ after, timeline.call store deadline operation =
      (.answered (.error (.reported fault)), after) ∧ after.contents = timeline.contents := by
  have failed := refuses.fails operation timeline.now kept
  rcases Timeline.call_at_once deadline (congrArg Prod.fst failed) with ⟨after, called, left⟩
  exact ⟨after, called, left.trans (congrArg Prod.snd failed)⟩

/-- A check that is under way ends with its next call. -/
theorem Refuses.runFrom (refuses : store.Refuses fault timeline.contents) (check : Check)
    (deadline : Option Instant) (phase : Check.Phase) :
    ∃ after, check.runFrom store deadline phase timeline =
      (.answered (.error (.reported fault)), after) ∧ after.contents = timeline.contents := by
  rcases refuses.call deadline (check.operation_ne_close phase) with ⟨after, called, same⟩
  exact ⟨after, check.runFrom_of_failed phase called rfl, same⟩

theorem Refuses.serve (refuses : store.Refuses fault timeline.contents) (service : Service)
    (request : Request) :
    ∃ after, service.serve store timeline request = (request.refused fault, after) ∧
      (request ≠ .call .close → after.contents = timeline.contents) := by
  cases request with
  | call operation =>
      by_cases close : operation = .close
      · subst close
        rcases Timeline.call_at_once none (refuses.closes timeline.now) with ⟨after, called, -⟩
        refine ⟨after, ?_, absurd rfl⟩
        simp only [Service.serve, Service.request, called, Request.refused]
      · rcases refuses.call none close with ⟨after, called, same⟩
        refine ⟨after, ?_, fun _ => same⟩
        simp only [Service.serve, Service.request, called]
        cases operation with
        | close => exact absurd rfl close
        | _ => rfl
  | admission address token =>
      rcases refuses.runFrom (service.check address token) (service.deadline timeline.now) .lookup
        with ⟨after, ran, same⟩
      refine ⟨after, ?_, fun _ => same⟩
      rw [Service.serve, Service.decideOn_eq, Check.run, ran]
      rfl

theorem Shut.serve (shut : store.Shut timeline.contents) (service : Service) (request : Request) :
    ∃ after, service.serve store timeline request = (request.refused .storeClosed, after) ∧
      after.contents = timeline.contents := by
  rcases shut.refuses.serve service request with ⟨after, served, kept⟩
  refine ⟨after, served, ?_⟩
  by_cases close : request = .call .close
  · subst close
    rcases Timeline.call_at_once none (shut.refuses.closes timeline.now) with ⟨_, called, left⟩
    simp only [Service.serve, Service.request, called, Prod.mk.injEq] at served
    rw [← served.2, left, shut.remains]
  · exact kept close

end CounterStore

end AdmissionControl

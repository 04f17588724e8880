import AdmissionControl.Proofs.Admission.Request
import AdmissionControl.Remote.Adapter

/-!
# What happens at a deployment

Requests are made through the adapters of a deployment, each by a service with limits and a time
limit of its own, while time passes, keys vanish, and other programs write keys. A list of
`Happening`s is one such course. Whoever asks does so at the time that it is; how long others wait
for their answers is nothing to it.

Two courses are compared one of which leaves some of the happenings out (`Deployment.run_filter`).
-/

namespace AdmissionControl.Remote

inductive Happening where
  /-- The clock comes to a point in time, and keys whose end is reached vanish. -/
  | pass (now : Instant)
  | vanish (key : String)
  /-- Another program gives a key a value. -/
  | write (key value : String)
  /-- Another service tries to connect an adapter. -/
  | connect (url : String) (window : Duration)
  /-- A service is asked, which has the adapter at an index. -/
  | ask (entrance : Nat) (service : Service) (request : Request)

structure Heard where
  entrance : Nat
  response : Response

namespace Deployment

def serve (deployment : Deployment) (entrance : Nat) (service : Service) (request : Request) :
    Completion request.Result × Deployment :=
  let (completion, after) :=
    service.serve (store entrance) (.start deployment.server.now deployment) request
  (completion, after.contents)

def happen (deployment : Deployment) : Happening → Option Heard × Deployment
  | .pass now => (none, { deployment with server := deployment.server.advance now })
  | .vanish key => (none, { deployment with server := deployment.server.expire key })
  | .write key value => (none, { deployment with server := deployment.server.put key value })
  | .connect url window => (none, (deployment.connect url window).2.2)
  | .ask entrance service request =>
      let (completion, after) := deployment.serve entrance service request
      (some ⟨entrance, request, completion⟩, after)

def run (deployment : Deployment) : List Happening → List Heard × Deployment
  | [] => ([], deployment)
  | happening :: rest =>
      let (heard, after) := deployment.happen happening
      let (others, final) := after.run rest
      (heard.toList ++ others, final)

variable {left right : Deployment} {entrance : Nat} {service : Service} {request : Request}
  {related : Deployment → Deployment → Prop} {permitted : Operation → Prop}
  {happenings : List Happening}

@[simp]
theorem happen_ask (deployment : Deployment) :
    deployment.happen (.ask entrance service request) =
      (some ⟨entrance, request, (deployment.serve entrance service request).1⟩,
        (deployment.serve entrance service request).2) := rfl

/-- What is asked of related deployments at one time has the same answer and leaves them related. -/
theorem serve_alike (related_pair : related left right) (now : left.server.now = right.server.now)
    (matching : (store entrance).Matches (store entrance) related permitted)
    (within : request.Within permitted service) :
    (left.serve entrance service request).1 = (right.serve entrance service request).1 ∧
      related (left.serve entrance service request).2 (right.serve entrance service request).2 := by
  have pair : (Timeline.start left.server.now left).Related related
      (Timeline.start right.server.now right) := ⟨now, related_pair⟩
  have alike := Service.serve_alike pair matching within
  exact ⟨alike.result, alike.after.contents⟩

/-- What every permitted call keeps, a request keeps. -/
theorem serve_keeps {kept : Deployment → Prop} (deployment : Deployment)
    (keeps : ∀ operation before, permitted operation → kept before →
      kept (before.perform entrance operation).2)
    (within : request.Within permitted service) (begun : kept deployment) :
    kept (deployment.serve entrance service request).2 := by
  let same : Deployment → Deployment → Prop := fun left right => left = right ∧ kept left
  have matching : (store entrance).Matches (store entrance) same permitted := by
    rintro operation now before _ allowed ⟨rfl, holds⟩
    exact ⟨rfl, rfl, keeps operation before allowed holds⟩
  have begun : same deployment deployment := ⟨rfl, begun⟩
  exact (serve_alike begun rfl matching within).2.2

/-- If some happenings leave a relation between two deployments alone, and all the others come out
alike at both and keep it, then who hears of these others alone cannot tell whether the former take
place. -/
theorem run_filter {keeps : Happening → Bool} {hears : Heard → Bool}
    (kept : ∀ happening left right, keeps happening = true → related left right →
      (left.happen happening).1 = (right.happen happening).1 ∧
        related (left.happen happening).2 (right.happen happening).2 ∧
        ∀ heard ∈ (right.happen happening).1, hears heard = true)
    (dropped : ∀ happening left right, keeps happening = false → related left right →
      related left (right.happen happening).2 ∧
        ∀ heard ∈ (right.happen happening).1, hears heard = false)
    (begun : related left right) :
    (left.run (happenings.filter keeps)).1 = (right.run happenings).1.filter hears ∧
      related (left.run (happenings.filter keeps)).2 (right.run happenings).2 := by
  induction happenings generalizing left right with
  | nil => exact ⟨rfl, begun⟩
  | cons happening rest ih =>
      cases keep : keeps happening with
      | true =>
          rcases kept happening left right keep begun with ⟨same, onward, heard⟩
          rcases ih onward with ⟨others, ended⟩
          simp only [List.filter_cons, keep, if_true, run, same, others, List.filter_append]
          refine ⟨?_, ended⟩
          cases outcome : (right.happen happening).1 with
          | none => rfl
          | some response => simp [heard response outcome]
      | false =>
          rcases dropped happening left right keep begun with ⟨onward, unheard⟩
          rcases ih onward with ⟨others, ended⟩
          simp only [List.filter_cons, keep, Bool.false_eq_true, if_false, run, others,
            List.filter_append]
          refine ⟨?_, ended⟩
          cases outcome : (right.happen happening).1 with
          | none => rfl
          | some response => simp [unheard response outcome]

end Deployment

end AdmissionControl.Remote

import AdmissionControl.Admission.Service
import AdmissionControl.Proofs.Store.Simulation

/-!
# Requests

What a service can be asked for, and the response to it: a call that is passed on to the store, or
the admission of a client. A service serves one request at a time, by itself; the request says which
calls it may come to (`Request.Within`).
-/

namespace AdmissionControl

inductive Request where
  | call (operation : Operation)
  /-- Admission for a client with an address and perhaps a token. -/
  | admission (address token : String)

@[reducible] def Request.Result : Request → Type
  | .call operation => operation.Result
  | .admission _ _ => Decision

structure Response where
  request : Request
  completion : Completion request.Result

def Service.serve {Contents : Type} (service : Service) (store : CounterStore Contents)
    (timeline : Timeline Contents) :
    (request : Request) → Completion request.Result × Timeline Contents
  | .call operation => Service.request store operation timeline
  | .admission address token => service.decideOn store address token timeline

/-- The operations that a service may perform for a request all are of some kind. -/
def Request.Within (permitted : Operation → Prop) (service : Service) : Request → Prop
  | .call operation => permitted operation
  | .admission address token =>
      ∀ phase, permitted ((service.check address token).operation phase)

theorem Service.serve_alike {First Second : Type} {first : CounterStore First}
    {second : CounterStore Second} {related : First → Second → Prop} {permitted : Operation → Prop}
    {left : Timeline First} {right : Timeline Second} {service : Service} {request : Request}
    (pair : left.Related related right) (matching : first.Matches second related permitted)
    (within : request.Within permitted service) :
    Alike related (service.serve first left request) (service.serve second right request) := by
  cases request with
  | call operation => exact Service.request_alike pair matching within
  | admission address token => exact Service.decideOn_alike pair matching within

end AdmissionControl

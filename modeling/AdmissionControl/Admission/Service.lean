import AdmissionControl.Admission.Check

/-!
# The admission service

A service has limits and perhaps a time limit for each admission check; it keeps nothing else, so
all services over one store decide alike. A check that is not finished within the time limit ends
with a timeout, whatever it did at the store before. The other requests are passed on to the store
and wait for it without a limit.
-/

namespace AdmissionControl

/-- The end of a request to a service: an answer, or that none ever comes. -/
inductive Completion (α : Type) where
  | answered (answer : Answer α)
  | unanswered

/-- An admission service. -/
structure Service where
  limits : Limits
  /-- How long an admission check may take. -/
  timeout : Option Duration

namespace Service

variable {Contents : Type}

/-- The check for a client with an address and perhaps a token. -/
def check (service : Service) (address token : String) : Check :=
  let identity := Identity.resolve address token
  { identity
    limit := service.limits.limitFor identity
    blockSpan := service.limits.blockSpan }

def decideOn (service : Service) (store : CounterStore Contents) (address token : String)
    (timeline : Timeline Contents) : Completion Decision × Timeline Contents :=
  let check := service.check address token
  match service.timeout with
  | none =>
      match check.run store none timeline with
      | (.answered answer, after) => (.answered answer, after)
      | (_, after) => (.unanswered, after)
  | some limit =>
      match check.run store (some (timeline.now.alarm limit)) timeline with
      | (.answered answer, after) => (.answered answer, after)
      | (_, after) => (.answered (.error (.reported (.timeout limit))), after)

def request (store : CounterStore Contents) (operation : Operation)
    (timeline : Timeline Contents) : Completion operation.Result × Timeline Contents :=
  match timeline.call store none operation with
  | (.answered answer, after) => (.answered answer, after)
  | (_, after) => (.unanswered, after)

def reset (store : CounterStore Contents) (identity : Identity) (timeline : Timeline Contents) :
    Completion Unit × Timeline Contents :=
  request store (.reset identity) timeline

def health (store : CounterStore Contents) (timeline : Timeline Contents) :
    Completion Unit × Timeline Contents :=
  request store .ping timeline

def close (store : CounterStore Contents) (timeline : Timeline Contents) :
    Completion Unit × Timeline Contents :=
  request store .close timeline

end Service

end AdmissionControl

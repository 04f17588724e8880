import AdmissionControl.Admission.Service
import AdmissionControl.Http.Client
import AdmissionControl.Http.Response
import AdmissionControl.Http.Target
import AdmissionControl.Network.Address

/-!
# The web application

The application has two resources. `/` greets, and stands behind admission: every request to it is
metered whatever its method, and only an admitted one is served. `/health` tells whether the store
can be reached and is not metered. Nothing else exists.

A request that the store did not decide on is answered like any internal error; the cause goes to
the log only.
-/

namespace AdmissionControl.Http

/-- A request as the application sees it. -/
structure Request where
  method : String
  target : Target
  headers : List Header
  /-- The address of the connection, where it is known. -/
  peer : Option Network.SocketAddress

/-- What the surroundings contribute to the handling of a request. -/
structure Occasion where
  /-- A name for the request in the log. -/
  requestId : String
  /-- The time of day, in seconds since 1970. -/
  timestamp : Nat

/-- The resources of the application. -/
inductive Resource where
  | greeting
  | health
deriving DecidableEq

namespace Resource

def atPath? : String → Option Resource
  | "/" => some .greeting
  | "/health" => some .health
  | _ => none

def methods : Resource → List String
  | .greeting => ["GET", "HEAD", "POST"]
  | .health => ["GET", "HEAD"]

end Resource

namespace Application

/-- The body of a response to a request beyond the limit. -/
def refusalText : String :=
  "you have reached the maximum number of requests or actions allowed within a certain time frame"

def refusal (limit : UInt64) (retryAfter : Nat) : Response :=
  (((Response.plain .tooManyRequests refusalText).withHeader
    "x-ratelimit-limit" (Nat.repr limit.toNat)).withHeader
    "x-ratelimit-remaining" "0").withHeader
    "retry-after" (Nat.repr retryAfter)

/-- The response to a request that failed inside the service. -/
def failure : Response :=
  .json .internalServerError ErrorReport.internal.json

/-- The response to a request with a method that the resource does not have. -/
def methodRefusal : Response :=
  .bare .methodNotAllowed

def greeting : Response :=
  .plain .ok "Hello, Rate Limited World!"

def requestTarget : String := "ratelimiter::middleware"

def incomingEvent (occasion : Occasion) (request : Request) : LogEvent where
  level := .info
  target := requestTarget
  message := "Incoming request"
  fields := [("request_id", .text occasion.requestId), ("method", .text request.method),
    ("uri", .text request.target.text)]

def completedEvent (occasion : Occasion) (request : Request) (status : Status) : LogEvent where
  level := .info
  target := requestTarget
  message := "Request completed"
  fields := [("request_id", .text occasion.requestId), ("method", .text request.method),
    ("uri", .text request.target.text), ("status", .text status.text)]

def undecidedEvent (fault : Fault) (address : String) : LogEvent where
  level := .error
  target := requestTarget
  message := "Rate limit check failed"
  fields := [("error", .text fault.message), ("store_error", .flag fault.concernsStore),
    ("client_ip", .text address)]

def faultEvent (fault : Fault) : LogEvent where
  level := .error
  target := "ratelimiter::error"
  message := "Request failed"
  fields := [("error", .text fault.message)]

def decisionEvent (decision : Decision) : LogEvent where
  level := .info
  target := requestTarget
  message := "Rate limit decision"
  fields := [("limit_type", .text decision.identity.kind),
    ("identifier", .text decision.identity.value), ("count", .number decision.currentCount),
    ("limit", .number decision.limit), ("remaining", .number decision.remaining),
    ("allowed", .flag decision.allowed)]

def deniedEvent (decision : Decision) : LogEvent where
  level := .warn
  target := requestTarget
  message := "Rate limit exceeded"
  fields := [("limit_type", .text decision.identity.kind),
    ("identifier", .text decision.identity.value)]

def unhealthyEvent (fault : Fault) : LogEvent where
  level := .warn
  target := "ratelimiter::handlers"
  message := "Health check failed"
  fields := [("error", .text fault.message)]

variable {Contents : Type}

/-- The address that a request is taken to come from. -/
def clientAddress (request : Request) : String :=
  Client.address request.headers (request.peer.map (·.text))

def identity (request : Request) : Identity :=
  .resolve (clientAddress request) (Client.token request.headers)

def metered (service : Service) (store : CounterStore Contents) (request : Request)
    (serve : Response) (timeline : Timeline Contents) :
    Completion Response × Timeline Contents :=
  let address := clientAddress request
  match service.decideOn store address (Client.token request.headers) timeline with
  | (.answered (.ok decision), after) =>
      let decided := after.log (decisionEvent decision)
      if decision.allowed then (.answered (.ok serve), decided)
      else
        (.answered (.ok (refusal decision.limit service.limits.blockSpan.seconds)),
          decided.log (deniedEvent decision))
  | (.answered (.error (.reported fault)), after) =>
      (.answered (.ok failure), (after.log (undecidedEvent fault address)).log (faultEvent fault))
  | (.answered (.error .abandoned), after) => (.answered (.error .abandoned), after)
  | (.unanswered, after) => (.unanswered, after)

def health (store : CounterStore Contents) (occasion : Occasion) (timeline : Timeline Contents) :
    Completion Response × Timeline Contents :=
  let report (storeConnected : Bool) : String :=
    HealthReport.json { storeConnected, timestamp := occasion.timestamp }
  match Service.health store timeline with
  | (.answered (.ok ()), after) => (.answered (.ok (.json .ok (report true))), after)
  | (.answered (.error (.reported fault)), after) =>
      (.answered (.ok (.json .serviceUnavailable (report false))),
        after.log (unhealthyEvent fault))
  | (.answered (.error .abandoned), after) => (.answered (.error .abandoned), after)
  | (.unanswered, after) => (.unanswered, after)

def withMethods (resource : Resource) (response : Response) : Response :=
  response.withHeader "allow" (",".intercalate resource.methods)

/-- Change the response that a request is completed with, if it is. -/
def mapResponse (change : Response → Response) : Completion Response → Completion Response
  | .answered (.ok response) => .answered (.ok (change response))
  | other => other

/-- Handle a request to a resource. One with a method that the resource does not have is told those
that it has, also where admission answers it. -/
def handleAt (service : Service) (store : CounterStore Contents) (occasion : Occasion)
    (request : Request) (resource : Resource) (timeline : Timeline Contents) :
    Completion Response × Timeline Contents :=
  let known := request.method ∈ resource.methods
  let (completion, after) :=
    match resource with
    | .greeting =>
        metered service store request (if known then greeting else methodRefusal) timeline
    | .health =>
        if known then health store occasion timeline
        else (.answered (.ok methodRefusal), timeline)
  (if known then completion else mapResponse (withMethods resource) completion, after)

def route (service : Service) (store : CounterStore Contents) (occasion : Occasion)
    (request : Request) (timeline : Timeline Contents) :
    Completion Response × Timeline Contents :=
  match Resource.atPath? request.target.path with
  | some resource => handleAt service store occasion request resource timeline
  | none => (.answered (.ok (.bare .notFound)), timeline)

/-- Handle a request and log that it came and how it was answered. -/
def respond (service : Service) (store : CounterStore Contents) (occasion : Occasion)
    (request : Request) (timeline : Timeline Contents) :
    Completion Response × Timeline Contents :=
  let (completion, after) :=
    route service store occasion request (timeline.log (incomingEvent occasion request))
  let sent := mapResponse (·.sent (request.method = "HEAD")) completion
  match sent with
  | .answered (.ok response) =>
      (sent, after.log (completedEvent occasion request response.status))
  | _ => (sent, after)

end Application

end AdmissionControl.Http

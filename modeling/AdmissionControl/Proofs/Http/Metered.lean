import AdmissionControl.Http.Application
import AdmissionControl.Proofs.Admission.Course
import AdmissionControl.Store.Script

/-!
# The metered resource

A request to `/` comes to one of three responses: what the resource behind admission answers, the
refusal of a request beyond the limit, or the response to a request that failed inside the service.
Which of them it is depends on the decision alone (`Application.respond_of_root`), and the store can
make the service decide for a request in one way only, by answering both questions in time
(`Application.root_fails_closed`).

The resource itself never answers with the status of a refusal or of a failure, so the three can be
told apart by the status.
-/

namespace AdmissionControl.Http

/-- The values of a header in a response, in order. -/
def Response.valuesOf (response : Response) (name : String) : List String :=
  (response.headers.filter fun header => header.1 = name).map Prod.snd

namespace Response

variable {response : Response} {name value query : String}

theorem valuesOf_withHeader_of_ne (other : name ≠ query) :
    (response.withHeader name value).valuesOf query = response.valuesOf query := by
  simp [valuesOf, withHeader, other]

theorem valuesOf_sent {headOnly : Bool} (other : "content-length" ≠ query) :
    (response.sent headOnly).valuesOf query = response.valuesOf query := by
  unfold sent
  cases headOnly with
  | true => exact valuesOf_withHeader_of_ne other
  | false => exact valuesOf_withHeader_of_ne other

@[simp]
theorem status_sent {headOnly : Bool} : (response.sent headOnly).status = response.status := by
  cases headOnly <;> rfl

end Response

namespace Application

/-- What the resource behind admission answers. -/
def inner (request : Request) : Response :=
  if request.method ∈ Resource.greeting.methods then greeting else methodRefusal

/-- A response of the metered resource as it is sent. -/
def finished (request : Request) (response : Response) : Response :=
  (if request.method ∈ Resource.greeting.methods then response
    else withMethods .greeting response).sent (request.method = "HEAD")

/-- The response that the outcome of admission leads to. -/
def responseTo (service : Service) (serve : Response) : Completion Decision → Completion Response
  | .answered (.ok decision) =>
      .answered (.ok (if decision.allowed then serve
        else refusal decision.limit service.limits.blockSpan.seconds))
  | .answered (.error (.reported _)) => .answered (.ok failure)
  | .answered (.error .abandoned) => .answered (.error .abandoned)
  | .unanswered => .unanswered

variable {Contents : Type} {service : Service} {store : CounterStore Contents}
  {occasion : Occasion} {request : Request} {timeline : Timeline Contents} {serve : Response}

theorem metered_eq :
    (metered service store request serve timeline).1 =
      responseTo service serve (service.decideOn store (clientAddress request)
        (Client.token request.headers) timeline).1 := by
  rcases decided : service.decideOn store (clientAddress request) (Client.token request.headers)
    timeline with ⟨completion, after⟩
  simp only [metered, decided]
  cases completion with
  | answered answer =>
      cases answer with
      | ok decision => cases allowed : decision.allowed <;> simp [responseTo, allowed]
      | error failure => cases failure <;> rfl
  | unanswered => rfl

theorem mapResponse_mapResponse (first second : Response → Response)
    (completion : Completion Response) :
    mapResponse second (mapResponse first completion) =
      mapResponse (fun response => second (first response)) completion := by
  cases completion with
  | answered answer => cases answer <;> rfl
  | unanswered => rfl

theorem respond_fst :
    (respond service store occasion request timeline).1 =
      mapResponse (fun response => response.sent (request.method = "HEAD"))
        (route service store occasion request
          (timeline.log (incomingEvent occasion request))).1 := by
  simp only [respond]
  split <;> simp_all

/-- The response to a request to `/` depends on nothing but the request and the decision. -/
theorem respond_of_root (root : request.target.path = "/") :
    (respond service store occasion request timeline).1 =
      mapResponse (finished request) (responseTo service (inner request)
        (service.decideOn store (clientAddress request) (Client.token request.headers)
          (timeline.log (incomingEvent occasion request))).1) := by
  have handled : (route service store occasion request
      (timeline.log (incomingEvent occasion request))).1 =
        if request.method ∈ Resource.greeting.methods then
          (metered service store request (inner request)
            (timeline.log (incomingEvent occasion request))).1
        else
          mapResponse (withMethods .greeting) (metered service store request (inner request)
            (timeline.log (incomingEvent occasion request))).1 := by
    simp only [route, root, Resource.atPath?, handleAt, inner]
  rw [respond_fst, handled, metered_eq]
  unfold finished
  split
  · rfl
  · exact mapResponse_mapResponse _ _ _

/-! ## The three responses -/

@[simp]
theorem status_finished {response : Response} :
    (finished request response).status = response.status := by
  unfold finished
  split
  · exact Response.status_sent
  · exact Response.status_sent

theorem status_inner :
    (inner request).status ≠ .tooManyRequests ∧ (inner request).status ≠ .internalServerError := by
  unfold inner
  split
  · decide
  · decide

theorem valuesOf_finished {response : Response} {query : String}
    (unmeasured : "content-length" ≠ query) (unlisted : "allow" ≠ query) :
    (finished request response).valuesOf query = response.valuesOf query := by
  unfold finished
  rw [Response.valuesOf_sent unmeasured]
  split
  · rfl
  · exact Response.valuesOf_withHeader_of_ne unlisted

/-- A decision or a fault, with the response to a request to `/` that it leads to. -/
inductive Outcome (service : Service) (request : Request) : Completion Decision → Response → Prop
  | served {decision : Decision} (allowed : decision.allowed = true) :
      Outcome service request (.answered (.ok decision)) (finished request (inner request))
  | refused {decision : Decision} (denied : decision.allowed = false) :
      Outcome service request (.answered (.ok decision))
        (finished request (refusal decision.limit service.limits.blockSpan.seconds))
  | failed (fault : Fault) :
      Outcome service request (.answered (.error (.reported fault))) (finished request failure)

theorem outcome_of_responseTo {completion : Completion Decision} {response : Response}
    (responded : mapResponse (finished request) (responseTo service (inner request) completion) =
      .answered (.ok response)) :
    Outcome service request completion response := by
  cases completion with
  | answered answer =>
      cases answer with
      | ok decision =>
          cases allowed : decision.allowed with
          | true =>
              simp only [responseTo, allowed] at responded
              cases responded
              exact .served allowed
          | false =>
              simp only [responseTo, allowed] at responded
              cases responded
              exact .refused allowed
      | error failure =>
          cases failure with
          | reported fault =>
              cases responded
              exact .failed fault
          | abandoned => cases responded
  | unanswered => cases responded

namespace Outcome

variable {decision : Decision} {completion : Completion Decision} {response : Response}

theorem responseTo_eq (outcome : Outcome service request completion response) :
    mapResponse (finished request) (responseTo service (inner request) completion) =
      .answered (.ok response) := by
  cases outcome with
  | served allowed => simp [responseTo, allowed, mapResponse]
  | refused denied => simp [responseTo, denied, mapResponse]
  | failed fault => rfl

theorem eq_served_or_status (outcome : Outcome service request completion response) :
    response = finished request (inner request) ∨ response.status = .tooManyRequests ∨
      response.status = .internalServerError := by
  cases outcome with
  | served allowed => exact .inl rfl
  | refused denied => exact .inr (.inl status_finished)
  | failed fault => exact .inr (.inr status_finished)

theorem served_iff :
    Outcome service request completion (finished request (inner request)) ↔
      ∃ decision, completion = .answered (.ok decision) ∧ decision.allowed = true := by
  constructor
  · intro outcome
    generalize same : finished request (inner request) = response at outcome
    have status := congrArg Response.status same
    rw [status_finished] at status
    cases outcome with
    | served allowed => exact ⟨_, rfl, allowed⟩
    | refused denied => exact absurd (status.trans status_finished) status_inner.1
    | failed fault => exact absurd (status.trans status_finished) status_inner.2
  · rintro ⟨decision, rfl, allowed⟩
    exact .served allowed

theorem refused_of_status (outcome : Outcome service request completion response)
    (status : response.status = .tooManyRequests) :
    ∃ decision, completion = .answered (.ok decision) ∧ decision.allowed = false ∧
      response = finished request (refusal decision.limit service.limits.blockSpan.seconds) := by
  cases outcome with
  | served allowed => exact absurd (status_finished.symm.trans status) status_inner.1
  | refused denied => exact ⟨_, rfl, denied, rfl⟩
  | failed fault => exact absurd (status_finished.symm.trans status) nofun

theorem failed_of_status (outcome : Outcome service request completion response)
    (status : response.status = .internalServerError) :
    (∃ fault, completion = .answered (.error (.reported fault))) ∧
      response = finished request failure := by
  cases outcome with
  | served allowed => exact absurd (status_finished.symm.trans status) status_inner.2
  | refused denied => exact absurd (status_finished.symm.trans status) nofun
  | failed fault => exact ⟨⟨fault, rfl⟩, rfl⟩

end Outcome

/-- What the application answers to a request to `/`, if it answers it. -/
theorem respond_iff (root : request.target.path = "/") {response : Response} :
    (respond service store occasion request timeline).1 = .answered (.ok response) ↔
      Outcome service request
        (service.decideOn store (clientAddress request) (Client.token request.headers)
          (timeline.log (incomingEvent occasion request))).1 response := by
  rw [respond_of_root root]
  exact ⟨outcome_of_responseTo, Outcome.responseTo_eq⟩

/-- A refusal states the limit, that nothing remains, and when to come back. -/
theorem valuesOf_refusal (limit : UInt64) (retryAfter : Nat) :
    (finished request (refusal limit retryAfter)).valuesOf "x-ratelimit-limit" =
        [Nat.repr limit.toNat] ∧
      (finished request (refusal limit retryAfter)).valuesOf "x-ratelimit-remaining" = ["0"] ∧
      (finished request (refusal limit retryAfter)).valuesOf "retry-after" =
        [Nat.repr retryAfter] := by
  refine ⟨?_, ?_, ?_⟩
  · rw [valuesOf_finished (by decide) (by decide)]
    rfl
  · rw [valuesOf_finished (by decide) (by decide)]
    rfl
  · rw [valuesOf_finished (by decide) (by decide)]
    rfl

/-- The metered resource fails closed, whatever the store does. -/
theorem root_fails_closed (service : Service) (store : CounterStore Contents) (occasion : Occasion)
    (request : Request) (timeline : Timeline Contents) (root : request.target.path = "/") :
    let check := service.check (clientAddress request) (Client.token request.headers)
    let limit := service.limits.limitFor (identity request)
    let deadline := service.deadline timeline.now
    let began := timeline.log (incomingEvent occasion request)
    let decided :=
      (service.decideOn store (clientAddress request) (Client.token request.headers) began).1
    let completion := (respond service store occasion request timeline).1
    (∀ response, completion = .answered (.ok response) →
      response = finished request (inner request) ∨ response.status = .tooManyRequests ∨
        response.status = .internalServerError) ∧
    (completion = .answered (.ok (finished request (inner request))) ↔
      ∃ looked counted count,
        began.call store deadline (.isBlocked (identity request)) =
          (.answered (.ok false), looked) ∧
        looked.call store deadline (.increment (identity request)) =
          (.answered (.ok count), counted) ∧
        count ≤ limit ∧ ∀ last ∈ deadline, looked.now ≤ last ∧ counted.now ≤ last) ∧
    ((∃ response, completion = .answered (.ok response) ∧ response.status = .tooManyRequests) ↔
      ∃ decision, decided = .answered (.ok decision) ∧ decision.allowed = false) ∧
    (∀ response, completion = .answered (.ok response) → response.status = .tooManyRequests →
      response.valuesOf "x-ratelimit-limit" = [Nat.repr limit.toNat] ∧
      response.valuesOf "x-ratelimit-remaining" = ["0"] ∧
      response.valuesOf "retry-after" =
        [Nat.repr (service.limits.blockSpan.nanoseconds / 1000000000)]) ∧
    ((∃ response, completion = .answered (.ok response) ∧
        response.status = .internalServerError) ↔
      ∃ fault, decided = .answered (.error (.reported fault))) ∧
    (∀ looked counted count reception set,
      began.call store deadline (.isBlocked (identity request)) =
        (.answered (.ok false), looked) →
      looked.call store deadline (.increment (identity request)) =
        (.answered (.ok count), counted) →
      ¬count ≤ limit →
      (counted.logAll (check.announcement (.block count))).call store deadline
        (.block (identity request) service.limits.blockSpan) = (reception, set) →
      (reception = .expired ∨ ∃ fault, reception = .answered (.error (.reported fault))) →
      ∃ response, completion = .answered (.ok response) ∧
        response.status = .internalServerError) ∧
    (∀ response, completion = .answered (.ok response) →
      response.status = .internalServerError → response = finished request failure) := by
  intro check limit deadline began decided completion
  have begun : ∀ last ∈ deadline, began.now ≤ last := Service.le_deadline
  have answers {response : Response} : completion = .answered (.ok response) ↔
      Outcome service request decided response := respond_iff root
  refine ⟨?_, ?_, ?_, ?_, ?_, ?_, ?_⟩
  · intro response completed
    exact (answers.mp completed).eq_served_or_status
  · rw [answers, Outcome.served_iff, Service.allowed_iff]
    constructor
    · rintro ⟨looked, counted, count, lookup, raise, within⟩
      have lookedInTime := Timeline.now_le_of_call begun lookup
      have countedInTime := Timeline.now_le_of_call lookedInTime raise
      exact ⟨looked, counted, count, lookup, raise, within,
        fun last limited => ⟨lookedInTime last limited, countedInTime last limited⟩⟩
    · rintro ⟨looked, counted, count, lookup, raise, within, _⟩
      exact ⟨looked, counted, count, lookup, raise, within⟩
  · constructor
    · rintro ⟨response, completed, status⟩
      rcases (answers.mp completed).refused_of_status status with ⟨decision, returned, denied, _⟩
      exact ⟨decision, returned, denied⟩
    · rintro ⟨decision, returned, denied⟩
      rw [returned] at answers
      exact ⟨_, answers.mpr (.refused denied), status_finished⟩
  · intro response completed status
    rcases (answers.mp completed).refused_of_status status with ⟨decision, returned, _, rfl⟩
    have course := Service.decideOn_ok_iff.mp (Prod.ext returned rfl)
    rw [course.subject.2]
    exact valuesOf_refusal limit service.limits.blockSpan.seconds
  · constructor
    · rintro ⟨response, completed, status⟩
      exact ((answers.mp completed).failed_of_status status).1
    · rintro ⟨fault, returned⟩
      rw [returned] at answers
      exact ⟨_, answers.mpr (.failed fault), status_finished⟩
  · intro looked counted count reception set lookup raise beyond block reported
    rcases Service.fault_of_failed block reported with ⟨failing, failed, fault, concluded⟩
    have course : check.Course store deadline began _ _ :=
      .blockFailed lookup raise beyond block failed
    have returned : service.decideOn store (clientAddress request) (Client.token request.headers)
        began = (.answered (.error (.reported fault)), set) :=
      Service.decideOn_iff.mpr ⟨failing, course, concluded.symm⟩
    have faulty : decided = .answered (.error (.reported fault)) := congrArg Prod.fst returned
    rw [faulty] at answers
    exact ⟨_, answers.mpr (.failed fault), status_finished⟩
  · intro response completed status
    exact ((answers.mp completed).failed_of_status status).2

/-- A store that counts a third request and does not answer when it is to set a block. -/
def stuckStore : Script where
  isBlocked := []
  increment := [.answers (some (.ofMilliseconds 20)) (.ok 3)]
  block := [.hangs]
  reset := []
  ping := []
  close := []

/-- A service that lets two requests in, and waits half a second for its store. -/
def impatientService : Service where
  limits := { ipLimit := 2, tokenLimit := 2, blockSpan := .ofSeconds 300 }
  timeout := some (.ofMilliseconds 500)

def rootRequest : Request where
  method := "GET"
  target := { scheme := none, authority := none, path := "/", query := none }
  headers := []
  peer := none

/-- The same store, but for setting the block. -/
def countingStore : Script :=
  { stuckStore with block := [] }

/-- A request beyond the limit is refused if its block could be set. Otherwise it gets the response
to any failure. -/
theorem root_fails_closed_at_stuckStore :
    let respondAt := fun store => (respond impatientService Script.store
      { requestId := "1", timestamp := 0 } rootRequest (.start .origin store)).1
    respondAt stuckStore = .answered (.ok (finished rootRequest failure)) ∧
      ∃ response, respondAt countingStore = .answered (.ok response) ∧
        response.status = .tooManyRequests ∧
        response.valuesOf "x-ratelimit-limit" = ["2"] ∧
        response.valuesOf "x-ratelimit-remaining" = ["0"] ∧
        response.valuesOf "retry-after" = ["300"] := by
  intro respondAt
  constructor
  · have closed := root_fails_closed impatientService Script.store
      { requestId := "1", timestamp := 0 } rootRequest (.start .origin stuckStore) rfl
    rcases closed.2.2.2.2.2.1 _ _ 3 .expired _ rfl rfl (by decide) rfl (.inl rfl) with
      ⟨response, completed, status⟩
    exact completed.trans (by rw [closed.2.2.2.2.2.2 response completed status])
  · have closed := root_fails_closed impatientService Script.store
      { requestId := "1", timestamp := 0 } rootRequest (.start .origin countingStore) rfl
    rcases closed.2.2.1.mpr
        (Service.denied_iff.mpr (.inr ⟨_, _, 3, _, rfl, rfl, by decide, rfl⟩)) with
      ⟨response, completed, status⟩
    have headers := closed.2.2.2.1 response completed status
    exact ⟨response, completed, status, headers⟩

end Application

end AdmissionControl.Http

import AdmissionControl.Proofs.Admission.Agenda
import AdmissionControl.Proofs.Http.Metered
import AdmissionControl.Proofs.Remote.Sending
import AdmissionControl.Store.Memory

/-!
# What each resource asks of the store

A request to `/` is one question to the service, put before anything else is done with the request:
whatever becomes of it, the store is asked what one check of the client asks it. No other request
is counted. A health check is one round trip to the store, and the rest are answered without it
(`Application.only_root_metered`).

So requests other than those to `/` may come in any number: they leave a store in memory, and
everything under the keys of a remote one, as it was.
-/

namespace AdmissionControl

/-- A round trip to the store in memory leaves it as it is. -/
theorem Memory.contents_of_ping (now : Instant) (memory : Memory) :
    (store.perform .ping now memory).2 = memory := by
  simp only [store, perform, guarded]
  cases memory.obstacle? <;> rfl

namespace Http

/-- Whether a request asks if the service works. -/
def Request.AsksHealth (request : Request) : Prop :=
  request.target.path = "/health" ∧ request.method ∈ Resource.health.methods

instance (request : Request) : Decidable request.AsksHealth :=
  inferInstanceAs (Decidable (_ ∧ _))

theorem Request.AsksHealth.ne_root {request : Request} (asks : request.AsksHealth) :
    request.target.path ≠ "/" := by
  rw [asks.1]
  decide

theorem Resource.atPath?_of_ne_root {path : String} (elsewhere : path ≠ "/") :
    atPath? path = if path = "/health" then some .health else none := by
  unfold atPath?
  split
  · contradiction
  · rfl
  · next unhealthy => exact (if_neg unhealthy).symm

namespace Application

variable {Contents : Type} {service : Service} {store : CounterStore Contents}
  {occasion : Occasion} {request : Request} {timeline : Timeline Contents} {serve : Response}

/-! ## What becomes of the store -/

theorem unlogged_metered :
    (metered service store request serve timeline).2.unlogged =
      (service.decideOn store (clientAddress request) (Client.token request.headers)
        timeline).2.unlogged := by
  rcases decided : service.decideOn store (clientAddress request) (Client.token request.headers)
    timeline with ⟨completion, after⟩
  simp only [metered, decided]
  cases completion with
  | answered answer =>
      cases answer with
      | ok decision => cases allowed : decision.allowed <;> simp [allowed]
      | error failure => cases failure <;> rfl
  | unanswered => rfl

theorem unlogged_respond :
    (respond service store occasion request timeline).2.unlogged =
      (route service store occasion request
        (timeline.log (incomingEvent occasion request))).2.unlogged := by
  simp only [respond]
  split <;> rfl

/-- Apart from the log, a request to `/` is a question to the service. -/
theorem unlogged_respond_of_root (root : request.target.path = "/") :
    (respond service store occasion request timeline).2.unlogged =
      (service.decideOn store (clientAddress request) (Client.token request.headers)
        (timeline.log (incomingEvent occasion request))).2.unlogged := by
  rw [unlogged_respond]
  simp only [route, root, Resource.atPath?, handleAt, unlogged_metered]

/-! ## Health checks -/

/-- What a health check makes of a round trip to the store. -/
def healthResponse (occasion : Occasion) : Reception Unit → Completion Response
  | .answered (.ok ()) => .answered (.ok (.json .ok
      (HealthReport.json { storeConnected := true, timestamp := occasion.timestamp })))
  | .answered (.error (.reported _)) => .answered (.ok (.json .serviceUnavailable
      (HealthReport.json { storeConnected := false, timestamp := occasion.timestamp })))
  | .answered (.error .abandoned) => .answered (.error .abandoned)
  | .expired | .unanswered => .unanswered

theorem health_eq {reception : Reception Unit} {asked : Timeline Contents}
    (called : timeline.call store none .ping = (reception, asked)) :
    (health store occasion timeline).1 = healthResponse occasion reception ∧
      (health store occasion timeline).2.unlogged = asked.unlogged := by
  simp only [health, Service.health, Service.request, called]
  cases reception with
  | answered answer =>
      cases answer with
      | ok result => exact ⟨rfl, rfl⟩
      | error failure => cases failure <;> exact ⟨rfl, rfl⟩
  | expired => exact ⟨rfl, rfl⟩
  | unanswered => exact ⟨rfl, rfl⟩

/-- Apart from the log, a health check is a round trip to the store. -/
theorem respond_of_health (asks : request.AsksHealth) {reception : Reception Unit}
    {asked : Timeline Contents}
    (called : (timeline.log (incomingEvent occasion request)).call store none .ping =
      (reception, asked)) :
    (respond service store occasion request timeline).1 =
        mapResponse (·.sent (request.method = "HEAD")) (healthResponse occasion reception) ∧
      (respond service store occasion request timeline).2.unlogged = asked.unlogged := by
  have routed : route service store occasion request
      (timeline.log (incomingEvent occasion request)) =
        health store occasion (timeline.log (incomingEvent occasion request)) := by
    simp only [route, asks.1, Resource.atPath?, handleAt, asks.2, if_true]
  constructor
  · rw [respond_fst, routed, (health_eq called).1]
  · rw [unlogged_respond, routed, (health_eq called).2]

/-- What is neither a request to `/` nor a health check is answered without the store. -/
theorem respond_of_neither (elsewhere : request.target.path ≠ "/") (other : ¬request.AsksHealth) :
    (∃ response, (respond service store occasion request timeline).1 = .answered (.ok response) ∧
        (response.status = .notFound ∨ response.status = .methodNotAllowed)) ∧
      (respond service store occasion request timeline).2.unlogged = timeline.unlogged := by
  rw [respond_fst, unlogged_respond, route, Resource.atPath?_of_ne_root elsewhere]
  by_cases health : request.target.path = "/health"
  · have unknown : request.method ∉ Resource.health.methods := fun known => other ⟨health, known⟩
    simp only [health, if_true, handleAt, unknown, if_false]
    exact ⟨⟨_, rfl, .inr Response.status_sent⟩, rfl⟩
  · simp only [health, if_false]
    exact ⟨⟨_, rfl, .inl Response.status_sent⟩, rfl⟩

/-- A health check is answered as the round trip went. -/
theorem status_of_health (asks : request.AsksHealth) {answer : Answer Unit}
    {asked : Timeline Contents}
    (called : (timeline.log (incomingEvent occasion request)).call store none .ping =
      (.answered answer, asked)) :
    (answer = .ok () → ∃ response,
      (respond service store occasion request timeline).1 = .answered (.ok response) ∧
        response.status = .ok) ∧
    ∀ fault, answer = .error (.reported fault) → ∃ response,
      (respond service store occasion request timeline).1 = .answered (.ok response) ∧
        response.status = .serviceUnavailable := by
  rw [(respond_of_health asks called).1]
  constructor
  · rintro rfl
    exact ⟨_, rfl, Response.status_sent⟩
  · rintro fault rfl
    exact ⟨_, rfl, Response.status_sent⟩

theorem status_of_healthResponse {reception : Reception Unit} {headOnly : Bool}
    {response : Response}
    (responded : mapResponse (·.sent headOnly) (healthResponse occasion reception) =
      .answered (.ok response)) :
    response.status = .ok ∨ response.status = .serviceUnavailable := by
  cases reception with
  | answered answer =>
      cases answer with
      | ok result =>
          cases responded
          exact .inl Response.status_sent
      | error failure =>
          cases failure with
          | reported fault =>
              cases responded
              exact .inr Response.status_sent
          | abandoned => cases responded
  | expired => cases responded
  | unanswered => cases responded

/-- Only admission turns clients away. -/
theorem status_of_elsewhere (elsewhere : request.target.path ≠ "/") {response : Response}
    (responded : (respond service store occasion request timeline).1 = .answered (.ok response)) :
    response.status ≠ .tooManyRequests := by
  by_cases asks : request.AsksHealth
  · rw [(respond_of_health asks rfl).1] at responded
    rcases status_of_healthResponse responded with status | status <;> rw [status] <;> decide
  · rcases (respond_of_neither elsewhere asks).1 with ⟨other, answered, status⟩
    cases answered.symm.trans responded
    rcases status with status | status <;> rw [status] <;> decide

theorem footprint_of_elsewhere (elsewhere : request.target.path ≠ "/") :
    ∃ made, timeline.Footprint store (respond service store occasion request timeline).2 made ∧
      made.map Prod.snd = if request.AsksHealth then [.ping] else [] := by
  by_cases asks : request.AsksHealth
  · rcases called : (timeline.log (incomingEvent occasion request)).call store none .ping with
      ⟨reception, asked⟩
    have footprint := Timeline.footprint_of_call called
    refine ⟨_, footprint.congr rfl (respond_of_health asks called).2, ?_⟩
    rw [if_pos asks]
    rfl
  · have footprint : timeline.Footprint store timeline [] := .refl timeline
    refine ⟨[], footprint.congr rfl (respond_of_neither elsewhere asks).2, ?_⟩
    rw [if_neg asks]
    rfl

/-! ## Many requests -/

/-- A request that comes at a point in time. -/
structure Visit where
  time : Instant
  occasion : Occasion
  request : Request

/-- The course of events after some requests, each handled when it came. -/
def attended (service : Service) (store : CounterStore Contents) (visits : List Visit)
    (timeline : Timeline Contents) : Timeline Contents :=
  visits.foldl (fun timeline visit =>
    (respond service store visit.occasion visit.request (timeline.moveTo visit.time)).2) timeline

theorem footprint_of_attended {visits : List Visit}
    (elsewhere : ∀ visit ∈ visits, visit.request.target.path ≠ "/") :
    ∃ made, timeline.Footprint store (attended service store visits timeline) made ∧
      made.map Prod.snd = (visits.filter (·.request.AsksHealth)).map fun _ => .ping := by
  induction visits generalizing timeline with
  | nil => exact ⟨[], .refl timeline, rfl⟩
  | cons visit rest ih =>
      rcases footprint_of_elsewhere (elsewhere visit List.mem_cons_self) with
        ⟨first, footprint, pings⟩
      rcases ih fun other member => elsewhere other (List.mem_cons_of_mem _ member) with
        ⟨more, onward, others⟩
      refine ⟨first ++ more, footprint.of_moveTo.trans onward, ?_⟩
      rw [List.map_append, pings, others, List.filter_cons]
      by_cases asks : visit.request.AsksHealth <;> simp [asks]

/-- What a round trip leaves alone is left alone by any number of requests other than to `/`. -/
theorem view_attended {View : Type} (view : Contents → View) {visits : List Visit}
    (elsewhere : ∀ visit ∈ visits, visit.request.target.path ≠ "/")
    (leaves : ∀ now contents, view (store.perform .ping now contents).2 = view contents) :
    view (attended service store visits timeline).contents = view timeline.contents := by
  rcases footprint_of_attended elsewhere with ⟨made, footprint, pings⟩
  rw [footprint.contents]
  refine CounterStore.replay_view (fun call member contents => ?_) _
  have ping : call.2 = .ping := by
    have listed := List.mem_map_of_mem (f := Prod.snd) member
    rw [pings] at listed
    rcases List.mem_map.mp listed with ⟨visit, _, same⟩
    exact same.symm
  rw [ping]
  exact leaves call.1 contents

/-- The requests to `/`, and no others, are metered: each is one question to the service, about the
client that its headers and its connection tell, whatever its method and its response. -/
theorem only_root_metered (service : Service) :
    (∀ {Contents : Type} (store : CounterStore Contents) (occasion : Occasion) (request : Request)
        (timeline : Timeline Contents),
      let began := timeline.log (incomingEvent occasion request)
      let question := service.decideOn store (clientAddress request)
        (Client.token request.headers) began
      let completion := (respond service store occasion request timeline).1
      let after := (respond service store occasion request timeline).2
      (request.target.path = "/" →
        completion =
          mapResponse (finished request) (responseTo service (inner request) question.1) ∧
        after.unlogged = question.2.unlogged ∧
        ∃ made, timeline.Footprint store after made ∧
          made.head? = some (timeline.now, .isBlocked (identity request)) ∧
          made.map Prod.snd <+: [.isBlocked (identity request), .increment (identity request),
            .block (identity request) service.limits.blockSpan]) ∧
      (request.target.path ≠ "/" →
        (∀ response, completion = .answered (.ok response) →
          response.status ≠ .tooManyRequests) ∧
        ∃ made, timeline.Footprint store after made ∧
          made.map Prod.snd = if request.AsksHealth then [.ping] else []) ∧
      (request.AsksHealth → ∀ answer asked,
        began.call store none .ping = (.answered answer, asked) →
        (answer = .ok () →
          ∃ response, completion = .answered (.ok response) ∧ response.status = .ok) ∧
        ∀ fault, answer = .error (.reported fault) →
          ∃ response, completion = .answered (.ok response) ∧
            response.status = .serviceUnavailable)) ∧
    ∀ visits : List Visit, (∀ visit ∈ visits, visit.request.target.path ≠ "/") →
      (∀ {Contents : Type} (store : CounterStore Contents) (timeline : Timeline Contents),
        ∃ made, timeline.Footprint store (attended service store visits timeline) made ∧
          made.map Prod.snd = (visits.filter (·.request.AsksHealth)).map fun _ => .ping) ∧
      (∀ timeline : Timeline Memory,
        (attended service Memory.store visits timeline).contents = timeline.contents) ∧
      ∀ (index : Nat) (timeline : Timeline Remote.Deployment),
        (attended service (Remote.Deployment.store index) visits timeline).contents.server.items =
          timeline.contents.server.items := by
  refine ⟨?_, ?_⟩
  · intro Contents store occasion request timeline began question completion after
    refine ⟨?_, ?_, ?_⟩
    · intro root
      rcases service.makes_of_decideOn store (clientAddress request)
        (Client.token request.headers) began with ⟨made, makes⟩
      exact ⟨respond_of_root root, unlogged_respond_of_root root, made,
        makes.footprint.congr rfl (unlogged_respond_of_root root), makes.atOnce, makes.inTurn⟩
    · intro elsewhere
      exact ⟨fun response => status_of_elsewhere elsewhere, footprint_of_elsewhere elsewhere⟩
    · intro asks answer asked called
      exact status_of_health asks called
  · intro visits elsewhere
    refine ⟨?_, ?_, ?_⟩
    · intro Contents store timeline
      exact footprint_of_attended elsewhere
    · intro timeline
      exact view_attended id elsewhere Memory.contents_of_ping
    · intro index timeline
      have leaves (now : Instant) (deployment : Remote.Deployment) :
          ((Remote.Deployment.store index).perform .ping now deployment).2.server.items =
            deployment.server.items := Remote.Deployment.items_of_ping
      exact view_attended (fun deployment : Remote.Deployment => deployment.server.items) elsewhere
        leaves

/-- A request to look whether the service works. -/
def healthRequest : Request where
  method := "GET"
  target := { scheme := none, authority := none, path := "/health", query := none }
  headers := []
  peer := none

/-- A store that blocks the sender of that request for five minutes. -/
def blockingMemory : Memory :=
  ((Memory.new (.ofSeconds 1)).block .origin (identity healthRequest) (.ofSeconds 300)).2

/-- A blocked client is told that the service works, and its questions change nothing. -/
theorem only_root_metered_of_blocked :
    blockingMemory.blocked .origin (identity healthRequest) = true ∧
    (∃ response, (respond impatientService Memory.store { requestId := "1", timestamp := 0 }
        healthRequest (.start .origin blockingMemory)).1 = .answered (.ok response) ∧
      response.status = .ok) ∧
    (attended impatientService Memory.store
      (.replicate 100 ⟨.origin, { requestId := "2", timestamp := 0 }, healthRequest⟩)
      (.start .origin blockingMemory)).contents = blockingMemory := by
  have metered := only_root_metered impatientService
  refine ⟨by decide, ?_, ?_⟩
  · have asks : healthRequest.AsksHealth := by decide
    have alone := metered.1 Memory.store { requestId := "1", timestamp := 0 } healthRequest
      (.start .origin blockingMemory)
    exact (alone.2.2 asks (.ok ()) _ rfl).1 rfl
  · refine (metered.2 _ ?_).2.1 (.start .origin blockingMemory)
    intro visit member
    rw [(List.mem_replicate.mp member).2]
    decide

end Application

end Http

end AdmissionControl

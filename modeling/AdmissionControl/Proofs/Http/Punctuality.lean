import AdmissionControl.Proofs.Admission.TimeLimit
import AdmissionControl.Proofs.Http.Resources

/-!
# Requests that meet an unresponsive store

The time limit of a service bounds what it does for admission, and nothing else. A request to `/` is
therefore answered by the deadline whatever the store does, and a request that needs no store is
answered at once, but a health check waits for its round trip: it is answered when the store answers
it, and never if the store does not (`Application.prompt_iff`).

So of the two ways to learn that a store hangs only one works within the limit.
-/

namespace AdmissionControl

variable {Contents : Type} {store : CounterStore Contents}

/-- A store that abandons no call: it answers, reports a fault, or keeps silent. -/
def CounterStore.Steady (store : CounterStore Contents) : Prop :=
  ∀ operation now contents wait,
    (store.perform operation now contents).1 ≠ .answers wait (.error .abandoned)

theorem Timeline.call_ne_abandoned {timeline after : Timeline Contents} {deadline : Option Instant}
    {operation : Operation} (steady : store.Steady) :
    timeline.call store deadline operation ≠ (.answered (.error .abandoned), after) := by
  intro called
  have kept := steady operation timeline.now timeline.contents
  rcases arrived : store.perform operation timeline.now timeline.contents with ⟨arrival, contents⟩
  rw [arrived] at kept
  simp only [call, arrived] at called
  split at called
  · cases called
    exact kept _ rfl
  · cases called
    exact kept _ rfl
  · split at called
    · cases called
      exact kept _ rfl
    · cases called
  · cases called
  · cases called

/-- A check is abandoned only in the middle of a call. -/
theorem Check.runFrom_ne_abandoned {check : Check} {deadline : Option Instant} {phase : Phase}
    {timeline after : Timeline Contents} (steady : store.Steady) :
    check.runFrom store deadline phase timeline ≠ (.answered (.error .abandoned), after) := by
  intro ran
  fun_induction check.runFrom store deadline phase timeline with
  | case1 phase timeline result between call decision progress => cases ran
  | case2 phase timeline result between call next later progress ih => exact ih ran
  | case3 phase timeline failure between call =>
      cases ran
      exact Timeline.call_ne_abandoned steady call
  | case4 phase timeline between call => cases ran
  | case5 phase timeline between call => cases ran

namespace Http.Application

variable {service : Service} {limit : Duration} {occasion : Occasion} {request : Request}
  {timeline : Timeline Contents}

/-- What became of a request is a response with this status. -/
def RespondsWith (status : Status) (completion : Completion Response) : Prop :=
  ∃ response, completion = .answered (.ok response) ∧ response.status = status

/-- The check for a request, where nothing hurries it. -/
def patientCheck (service : Service) (store : CounterStore Contents) (occasion : Occasion)
    (request : Request) (timeline : Timeline Contents) : Reception Decision × Timeline Contents :=
  (service.check (clientAddress request) (Client.token request.headers)).run store none
    (timeline.log (incomingEvent occasion request))

/-- The round trip to the store for a health check. -/
def roundTrip (store : CounterStore Contents) (occasion : Occasion) (request : Request)
    (timeline : Timeline Contents) : Reception Unit × Timeline Contents :=
  (timeline.log (incomingEvent occasion request)).call store none .ping

/-- An unresponsive store is reported by the deadline, not waited for. -/
structure Prompt (service : Service) (limit : Duration) (store : CounterStore Contents)
    (occasion : Occasion) (request : Request) (timeline : Timeline Contents) : Prop where
  answered : ∃ response,
    (respond service store occasion request timeline).1 = .answered (.ok response)
  soon : (respond service store occasion request timeline).2.now ≤ timeline.now.alarm limit
  undecided : request.target.path = "/" →
    ¬(patientCheck service store occasion request timeline).1.InTime
      (patientCheck service store occasion request timeline).2.now (timeline.now.alarm limit) →
    RespondsWith .internalServerError (respond service store occasion request timeline).1
  unreachable : request.AsksHealth →
    ¬(roundTrip store occasion request timeline).1.InTime
      (roundTrip store occasion request timeline).2.now (timeline.now.alarm limit) →
    RespondsWith .serviceUnavailable (respond service store occasion request timeline).1

/-! ## Requests under the time limit -/

theorem now_respond_of_root (root : request.target.path = "/") :
    (respond service store occasion request timeline).2.now =
      (service.decideOn store (clientAddress request) (Client.token request.headers)
        (timeline.log (incomingEvent occasion request))).2.now :=
  Timeline.now_of_unlogged (unlogged_respond_of_root root)

/-- A request to `/` is answered with what the service decided in time, or with its timeout. -/
theorem prompt_of_root (limited : service.timeout = some limit) (steady : store.Steady)
    (root : request.target.path = "/") :
    Prompt service limit store occasion request timeline := by
  have other : ¬request.AsksHealth := fun asks => asks.ne_root root
  rcases ran : patientCheck service store occasion request timeline with ⟨reception, after⟩
  by_cases inTime : reception.InTime after.now (timeline.now.alarm limit)
  · rcases Service.decideOn_of_inTime limited ran inTime with ⟨answer, rfl, decided⟩
    constructor
    · rw [respond_of_root root, decided]
      cases answer with
      | ok decision => exact ⟨_, rfl⟩
      | error failure =>
          cases failure with
          | reported fault => exact ⟨_, rfl⟩
          | abandoned => exact absurd ran (Check.runFrom_ne_abandoned steady)
    · rw [now_respond_of_root root, decided]
      exact inTime.2
    · intro _ late
      rw [ran] at late
      exact absurd inTime late
    · exact fun asks => absurd asks other
  · rcases Service.decideOn_of_late limited ran inTime with ⟨stopped, made, cut, decided⟩
    have failed : (respond service store occasion request timeline).1 =
        .answered (.ok (finished request failure)) := by
      rw [respond_of_root root, decided]
      rfl
    constructor
    · exact ⟨_, failed⟩
    · rw [now_respond_of_root root, decided]
      exact Nat.le_of_eq (congrArg Instant.nanoseconds cut.ended)
    · exact fun _ _ => ⟨_, failed, status_finished⟩
    · exact fun asks => absurd asks other

/-- What needs no store is answered at once. -/
theorem prompt_of_neither (elsewhere : request.target.path ≠ "/") (other : ¬request.AsksHealth) :
    Prompt service limit store occasion request timeline := by
  constructor
  · rcases (respond_of_neither elsewhere other).1 with ⟨response, answered, _⟩
    exact ⟨response, answered⟩
  · rw [Timeline.now_of_unlogged (respond_of_neither elsewhere other).2]
    exact timeline.now.le_alarm limit
  · exact fun root => absurd root elsewhere
  · exact fun asks => absurd asks other

/-! ## Health checks -/

/-- A health check takes as long as its round trip, and is answered if that is. -/
theorem respond_of_roundTrip (service : Service) (occasion : Occasion)
    (timeline : Timeline Contents) (steady : store.Steady) (asks : request.AsksHealth) :
    (respond service store occasion request timeline).2.now =
        (roundTrip store occasion request timeline).2.now ∧
      ((∃ response, (respond service store occasion request timeline).1 =
          .answered (.ok response)) ↔
        ∃ answer, (roundTrip store occasion request timeline).1 = .answered answer) := by
  rcases called : roundTrip store occasion request timeline with ⟨reception, asked⟩
  refine ⟨Timeline.now_of_unlogged (respond_of_health asks called).2, ?_⟩
  rw [(respond_of_health asks called).1]
  cases reception with
  | answered answer =>
      refine ⟨fun _ => ⟨answer, rfl⟩, fun _ => ?_⟩
      cases answer with
      | ok result => exact ⟨_, rfl⟩
      | error failure =>
          cases failure with
          | reported fault => exact ⟨_, rfl⟩
          | abandoned => exact absurd called (Timeline.call_ne_abandoned steady)
  | expired => exact ⟨nofun, nofun⟩
  | unanswered => exact ⟨nofun, nofun⟩

/-- Under a time limit a request is answered by the deadline, except for a health check whose round
trip takes longer: that one is answered when the store answers, and never if the store does not. -/
theorem prompt_iff (service : Service) (limit : Duration) (store : CounterStore Contents)
    (occasion : Occasion) (request : Request) (timeline : Timeline Contents)
    (limited : service.timeout = some limit) (steady : store.Steady) :
    let responded := respond service store occasion request timeline
    let asked := roundTrip store occasion request timeline
    (Prompt service limit store occasion request timeline ↔
      (request.AsksHealth → asked.1.InTime asked.2.now (timeline.now.alarm limit))) ∧
    (request.AsksHealth → responded.2.now = asked.2.now ∧
      ((∃ response, responded.1 = .answered (.ok response)) ↔
        ∃ answer, asked.1 = .answered answer)) := by
  intro responded asked
  refine ⟨?_, respond_of_roundTrip service occasion timeline steady⟩
  by_cases asks : request.AsksHealth
  · have trip := respond_of_roundTrip service occasion timeline steady asks
    constructor
    · intro prompt _
      exact ⟨trip.2.mp prompt.answered, trip.1 ▸ prompt.soon⟩
    · intro inTime
      constructor
      · exact trip.2.mpr (inTime asks).1
      · rw [trip.1]
        exact (inTime asks).2
      · exact fun root => absurd root asks.ne_root
      · exact fun _ late => absurd (inTime asks) late
  · refine ⟨fun _ health => absurd health asks, fun _ => ?_⟩
    by_cases root : request.target.path = "/"
    · exact prompt_of_root limited steady root
    · exact prompt_of_neither root asks

/-- A store that takes two seconds for whatever it is asked. -/
def sluggishStore : CounterStore Unit where
  perform operation _ _ :=
    let answer : Answer operation.Result := match operation with
      | .isBlocked _ => .ok false
      | .increment _ => .ok 1
      | .block _ _ => .ok ()
      | .reset _ => .ok ()
      | .ping => .ok ()
      | .close => .ok ()
    (.answers (some (.ofSeconds 2)) answer, ())
  announce _ _ := []

theorem steady_sluggishStore : sluggishStore.Steady := by
  intro operation now contents wait same
  cases operation <;> cases same

/-- At a store that takes two seconds the greeting is given up after half a second. -/
theorem prompt_iff_at_sluggishStore :
    RespondsWith .internalServerError
        (respond impatientService sluggishStore { requestId := "1", timestamp := 0 } rootRequest
          (.start .origin ())).1 ∧
      (respond impatientService sluggishStore { requestId := "1", timestamp := 0 } rootRequest
        (.start .origin ())).2.now ≤ ⟨500000000⟩ := by
  have prompt := (prompt_iff impatientService (.ofMilliseconds 500) sluggishStore
    { requestId := "1", timestamp := 0 } rootRequest (.start .origin ()) rfl
    steady_sluggishStore).1.mpr fun asks => absurd rfl asks.ne_root
  have patient : patientCheck impatientService sluggishStore
      { requestId := "1", timestamp := 0 } rootRequest (.start .origin ()) = (_, _) :=
    Check.run_of_course (.within rfl rfl (by decide))
  refine ⟨prompt.undecided rfl fun inTime => ?_, prompt.soon⟩
  have soon := inTime.2
  rw [patient] at soon
  revert soon
  decide

/-- A health check of the same service is answered after the two seconds, as if all were well. -/
theorem not_prompt_at_sluggishStore :
    let occasion : Occasion := { requestId := "1", timestamp := 0 }
    let responded := respond impatientService sluggishStore occasion healthRequest
      (.start .origin ())
    impatientService.timeout = some (.ofMilliseconds 500) ∧ sluggishStore.Steady ∧
      RespondsWith .ok responded.1 ∧ responded.2.now = ⟨2000000000⟩ ∧
      ¬Prompt impatientService (.ofMilliseconds 500) sluggishStore occasion healthRequest
        (.start .origin ()) := by
  intro occasion responded
  have asks : healthRequest.AsksHealth := by decide
  have called : roundTrip sluggishStore occasion healthRequest (.start .origin ()) =
      (.answered (.ok ()), _) := rfl
  have answered : responded.1 = _ := (respond_of_health asks called).1
  have late : responded.2.now = ⟨2000000000⟩ :=
    (Timeline.now_of_unlogged (respond_of_health asks called).2).trans (by decide)
  refine ⟨rfl, steady_sluggishStore, ⟨_, answered, Response.status_sent⟩, late, fun prompt => ?_⟩
  have soon : responded.2.now ≤ _ := prompt.soon
  rw [late] at soon
  revert soon
  decide

end Http.Application

end AdmissionControl

import AdmissionControl.Proofs.Admission.Failure
import AdmissionControl.Proofs.Remote.Happenings
import AdmissionControl.Proofs.Remote.Sending

/-!
# Adapters that were closed

An adapter that was closed refuses everything for good (`Deployment.Closed.shut`) and leaves the
server alone. To all others it is as if nobody asked there any more: the server and they go through
the same as they do where the adapter is still open and its requests are left out (`Deserted`),
whatever the server has in its script and whatever state the connections are in.

With what is known of a store in memory this says of both kinds of store that they do not recover
(`failures_absorbing`).
-/

namespace AdmissionControl.Remote

def Happening.elsewhere (entrance : Nat) : Happening → Bool
  | .ask other _ _ => other ≠ entrance
  | _ => true

namespace Deployment

variable {deployment left right : Deployment} {entrance other : Nat} {operation : Operation}
  {happening : Happening} {happenings : List Happening}

def Closed (deployment : Deployment) (entrance : Nat) : Prop :=
  ∃ adapter, deployment.adapters[entrance]? = some adapter ∧ adapter.link = .closed

theorem perform_of_present {adapter : Adapter}
    (present : deployment.adapters[entrance]? = some adapter) :
    deployment.perform entrance operation =
      ((adapter.perform deployment.route operation deployment.server).1,
        { deployment with
          server := (adapter.perform deployment.route operation deployment.server).2.2
          adapters := deployment.adapters.set entrance
            (adapter.perform deployment.route operation deployment.server).2.1 }) := by
  simp only [perform, present]

/-- An adapter that was closed is closed for good. -/
theorem Closed.shut (closed : deployment.Closed entrance) : (store entrance).Shut deployment := by
  rcases closed with ⟨⟨address, window, link⟩, present, rfl⟩
  have same : deployment.adapters.set entrance ⟨address, window, .closed⟩ = deployment.adapters := by
    rcases List.getElem?_eq_some_iff.mp present with ⟨within, held⟩
    rw [← held, List.set_getElem_self]
  refine ⟨⟨?_, ?_⟩, ?_⟩
  · intro operation now kept
    simp only [store, perform_of_present present, Adapter.perform_of_kept kept, same]
  · intro now
    simp only [store, perform_of_present present, Adapter.perform]
  · intro now
    simp only [store, perform_of_present present, Adapter.perform, same]

theorem close_of_present (present : entrance < deployment.adapters.length) :
    (deployment.perform entrance .close).1 = .answers none (.ok ()) ∧
      (deployment.perform entrance .close).2.server = deployment.server ∧
      (deployment.perform entrance .close).2.Closed entrance := by
  have found := List.getElem?_eq_getElem present
  rw [perform_of_present found]
  exact ⟨rfl, rfl, _, List.getElem?_set_self present, rfl⟩

/-- Two deployments differ in the adapter at an index alone, which was closed at the second one. -/
structure Deserted (entrance : Nat) (left right : Deployment) : Prop where
  route : left.route = right.route
  server : left.server = right.server
  adapters : left.adapters.length = right.adapters.length
  others : ∀ other, other ≠ entrance → left.adapters[other]? = right.adapters[other]?
  closed : right.Closed entrance

namespace Deserted

theorem refl (closed : deployment.Closed entrance) : Deserted entrance deployment deployment where
  route := rfl
  server := rfl
  adapters := rfl
  others _ _ := rfl
  closed := closed

theorem of_close (present : entrance < deployment.adapters.length) :
    Deserted entrance deployment (deployment.perform entrance .close).2 := by
  have found := List.getElem?_eq_getElem present
  refine ⟨?_, ?_, ?_, ?_, (close_of_present present).2.2⟩
  · rw [perform_of_present found]
  · exact (close_of_present present).2.1.symm
  · rw [perform_of_present found, List.length_set]
  · intro other elsewhere
    rw [perform_of_present found, List.getElem?_set_ne (Ne.symm elsewhere)]

theorem withServer (deserted : Deserted entrance left right) (change : Server → Server) :
    Deserted entrance { left with server := change left.server }
      { right with server := change right.server } where
  route := deserted.route
  server := congrArg change deserted.server
  adapters := deserted.adapters
  others := deserted.others
  closed := deserted.closed

/-- The other adapters do not notice. -/
theorem perform (deserted : Deserted entrance left right) (elsewhere : other ≠ entrance) :
    (left.perform other operation).1 = (right.perform other operation).1 ∧
      Deserted entrance (left.perform other operation).2 (right.perform other operation).2 := by
  have same := deserted.others other elsewhere
  cases present : right.adapters[other]? with
  | none =>
      rw [present] at same
      simp only [Deployment.perform, same, present]
      exact ⟨trivial, deserted⟩
  | some adapter =>
      rw [present] at same
      rw [perform_of_present same, perform_of_present present, deserted.route, deserted.server]
      refine ⟨rfl, rfl, rfl, ?_, ?_, ?_⟩
      · simp only [List.length_set, deserted.adapters]
      · intro index away
        simp only [List.getElem?_set, deserted.adapters, deserted.others index away]
      · rcases deserted.closed with ⟨closed, held, link⟩
        exact ⟨closed, by rw [List.getElem?_set_ne elsewhere, held], link⟩

theorem connect (deserted : Deserted entrance left right) (url : String) (window : Duration) :
    Deserted entrance (left.connect url window).2.2 (right.connect url window).2.2 := by
  rcases left with ⟨route, server, leftAdapters⟩
  rcases right with ⟨_, _, rightAdapters⟩
  rcases deserted with ⟨rfl, rfl, adapters, others, closed⟩
  unfold Deployment.connect
  cases Address.ofUrl url with
  | error problem => exact ⟨rfl, rfl, adapters, others, closed⟩
  | ok address =>
      simp only
      rcases openWithRetries route address retries server with ⟨outcome, after⟩
      cases outcome with
      | silence => exact ⟨rfl, rfl, adapters, others, closed⟩
      | done connected =>
          cases connected with
          | error fault => exact ⟨rfl, rfl, adapters, others, closed⟩
          | ok connection =>
              refine ⟨rfl, rfl, ?_, ?_, ?_⟩
              · simp only [List.length_append, adapters]
              · intro other away
                simp only [List.getElem?_append, adapters, others other away]
              · rcases closed with ⟨adapter, held, link⟩
                have within := (List.getElem?_eq_some_iff.mp held).1
                exact ⟨adapter, by rw [List.getElem?_append_left within, held], link⟩

/-- What happens elsewhere comes out alike at both deployments. -/
theorem happen (deserted : Deserted entrance left right)
    (elsewhere : happening.elsewhere entrance = true) :
    (left.happen happening).1 = (right.happen happening).1 ∧
      Deserted entrance (left.happen happening).2 (right.happen happening).2 ∧
      ∀ heard ∈ (right.happen happening).1, heard.entrance ≠ entrance := by
  have unheard : ∀ heard ∈ (none : Option Heard), heard.entrance ≠ entrance := by simp
  cases happening with
  | pass now => exact ⟨rfl, deserted.withServer (Server.advance · now), unheard⟩
  | vanish key => exact ⟨rfl, deserted.withServer (Server.expire · key), unheard⟩
  | write key value => exact ⟨rfl, deserted.withServer (Server.put · key value), unheard⟩
  | connect url window => exact ⟨rfl, deserted.connect url window, unheard⟩
  | ask other service request =>
      have away : other ≠ entrance := of_decide_eq_true elsewhere
      have matching : (store other).Matches (store other) (Deserted entrance) fun _ => True :=
        fun operation now left right _ deserted => deserted.perform away
      have within : request.Within (fun _ => True) service := by
        cases request with
        | call operation => trivial
        | admission address token => exact fun _ => trivial
      have now := congrArg Server.now deserted.server
      rcases serve_alike deserted now matching within with ⟨same, after⟩
      simp only [happen_ask, same]
      refine ⟨trivial, after, ?_⟩
      rintro heard ⟨⟩
      exact away

/-- What is asked of the closed adapter is refused, and leaves everything as it is. -/
theorem happen_there (deserted : Deserted entrance left right)
    (there : happening.elsewhere entrance = false) :
    Deserted entrance left (right.happen happening).2 ∧
      ∀ heard ∈ (right.happen happening).1, heard.entrance = entrance ∧
        heard.response.completion = heard.response.request.refused .storeClosed := by
  cases happening with
  | ask other service request =>
      have same : other = entrance := by simpa [Happening.elsewhere] using there
      subst same
      have shut : (store other).Shut (Timeline.start right.server.now right).contents :=
        deserted.closed.shut
      rcases shut.serve service request with ⟨after, refused, kept⟩
      simp only [happen_ask, serve, refused, kept]
      refine ⟨deserted, ?_⟩
      rintro heard ⟨⟩
      exact ⟨rfl, rfl⟩
  | _ => cases there

theorem run (deserted : Deserted entrance left right) :
    (left.run (happenings.filter (Happening.elsewhere entrance))).1 =
        (right.run happenings).1.filter (fun heard => heard.entrance ≠ entrance) ∧
      Deserted entrance (left.run (happenings.filter (Happening.elsewhere entrance))).2
        (right.run happenings).2 := by
  apply run_filter
  · intro happening left right elsewhere deserted
    simpa using deserted.happen elsewhere
  · intro happening left right there deserted
    rcases deserted.happen_there there with ⟨onward, refused⟩
    exact ⟨onward, fun heard member => by simpa using (refused heard member).1⟩
  · exact deserted

end Deserted

theorem Closed.refuses (closed : deployment.Closed entrance) :
    ∀ heard ∈ (deployment.run happenings).1, heard.entrance = entrance →
      heard.response.completion = heard.response.request.refused .storeClosed := by
  induction happenings generalizing deployment with
  | nil => simp [run]
  | cons happening rest ih =>
      intro heard member there
      -- A deployment with a closed adapter is related to itself, and the relation keeps it closed.
      have deserted := Deserted.refl closed
      rcases List.mem_append.mp member with first | later
      · have first := Option.mem_toList.mp first
        cases elsewhere : happening.elsewhere entrance with
        | true => exact absurd there ((deserted.happen elsewhere).2.2 heard first)
        | false => exact ((deserted.happen_there elsewhere).2 heard first).2
      · have still : (deployment.happen happening).2.Closed entrance := by
          cases elsewhere : happening.elsewhere entrance with
          | true => exact (deserted.happen elsewhere).2.1.closed
          | false => exact (deserted.happen_there elsewhere).1.closed
        exact ih still heard later there

end Deployment

end AdmissionControl.Remote

namespace AdmissionControl

open Remote

/-- What has failed for good stays so, whatever follows.

How a call of a store in memory fails is settled by the calls before it, closed going before spoilt;
once it refuses everything the traffic over it is at a standstill, and a spoilt one counts nothing.
An adapter that was closed refuses everything, checks under way included, and leaves the server
alone, while the others hear and do what they would hear and do without its requests. -/
theorem failures_absorbing :
    (∀ window moves,
      let traffic := (Traffic.fresh window).run moves
      let history := (Traffic.fresh window).history moves
      (∀ before call after, history = before ++ call :: after →
        call.failure? = call.expectedFailure? window before) ∧
      (∀ fault, StoreCall.fault? history = some fault → ∀ more,
        (traffic.run more).Standstill
          (if (traffic.history more).any StoreCall.closes then .storeClosed else fault)) ∧
      (history.any StoreCall.isAbandoned = true → ∀ more now identity,
        (traffic.run more).memory.count now identity = 0 ∧
          (traffic.run more).memory.entryCount = 0)) ∧
    ∀ (deployment : Deployment) entrance, entrance < deployment.adapters.length →
      let closing := deployment.perform entrance .close
      closing.1 = .answers none (.ok ()) ∧ closing.2.server = deployment.server ∧
      ∀ happenings,
        let later := closing.2.run happenings
        let without := deployment.run (happenings.filter (Happening.elsewhere entrance))
        (∀ heard ∈ later.1, heard.entrance = entrance →
          heard.response.completion = heard.response.request.refused .storeClosed) ∧
        (∀ (check : Check) deadline phase timeline, timeline.contents = later.2 →
          ∃ after, check.runFrom (Deployment.store entrance) deadline phase timeline =
            (.answered (.error (.reported .storeClosed)), after) ∧ after.contents = later.2) ∧
        later.1.filter (fun heard => heard.entrance ≠ entrance) = without.1 ∧
        later.2.server = without.2.server := by
  refine ⟨?_, ?_⟩
  · intro window moves traffic history
    refine ⟨?_, ?_, ?_⟩
    · intro before call after made
      exact Traffic.failure?_of_history made
    · intro fault failed more
      exact Traffic.standstill_of_obstacle (Traffic.obstacle?_later failed more)
    · intro abandoned more now identity
      have spoilt := Traffic.spoilt_later abandoned more
      simp only [Memory.count, Memory.entryCount, traffic, spoilt, if_true, and_self]
  · intro deployment entrance present closing
    rcases Deployment.close_of_present present with ⟨answered, server, closed⟩
    refine ⟨answered, server, ?_⟩
    intro happenings later without
    rcases @Deployment.Deserted.run _ _ _ happenings (Deployment.Deserted.of_close present) with
      ⟨heard, deserted⟩
    refine ⟨closed.refuses, ?_, heard.symm, deserted.server.symm⟩
    intro check deadline phase timeline contents
    have refuses := deserted.closed.shut.refuses
    change (Deployment.store entrance).Refuses .storeClosed later.2 at refuses
    rw [← contents] at refuses ⊢
    exact refuses.runFrom check deadline phase

/-- The clock never holds the end of a window that is as long as this one, so the first raise spoils
the store. Of two adapters one is closed. -/
theorem failures_absorbing_of_endless :
    let traffic := (Traffic.fresh ⟨Instant.horizon⟩).run
      [.arrive (Traffic.serviceOf 1) "10.0.0.1" "", .proceed 0, .proceed 0]
    let adapter : Adapter :=
      ⟨⟨"10.0.0.9", 6379, none, none, 0⟩, .ofSeconds 1, .connected .fresh⟩
    let deployment : Deployment := ⟨.reachable, .new, [adapter, adapter]⟩
    traffic.Standstill (.internal "Failed to acquire storage lock") ∧
      (traffic.run [.direct .close]).Standstill .storeClosed ∧
      traffic.memory.entryCount = 0 ∧
      ∀ happenings, ((deployment.perform 1 .close).2.run happenings).2.server =
        (deployment.run (happenings.filter (Happening.elsewhere 1))).2.server := by
  intro traffic adapter deployment
  rcases failures_absorbing with ⟨inMemory, atServer⟩
  rcases inMemory ⟨Instant.horizon⟩
    [.arrive (Traffic.serviceOf 1) "10.0.0.1" "", .proceed 0, .proceed 0] with
    ⟨-, standstill, uncounted⟩
  have spoilt := standstill (.internal "Failed to acquire storage lock") rfl
  refine ⟨spoilt [], spoilt [.direct .close], ?_, ?_⟩
  · exact (uncounted rfl [] .origin (.ip "")).2
  · intro happenings
    exact ((atServer deployment 1 (by decide)).2.2 happenings).2.2.2

end AdmissionControl

import AdmissionControl.Proofs.Admission.Traffic
import AdmissionControl.Proofs.Store.Agreement

/-!
# Independence of identities

Distinct identities never influence each other, although every increment and every block sweeps the
entries of all of them. The statement is about two runs: `Traffic.concerning` leaves only the moves
of some traffic that concern no other identity, and `Traffic.others_unobservable` says that all
steps on the identity come out as they did.

The proof keeps the two traffics side by side (`Traffic.Isolates`). A move that is left takes both
on, and the stores, which agree on the identity, give it the same answer. A move that is left out is
made in the whole traffic alone, and cannot be seen in what is held for the identity. Checks are
known by their number of arrival, so those that are left are numbered anew (`Traffic.rank`).
-/

namespace List

/-- The place of an entry among those that pass a test, if it passes the test itself. -/
theorem filter_getElem?_take {Entry : Type} (test : Entry → Bool) :
    {entries : List Entry} → {index : Nat} → {entry : Entry} → entries[index]? = some entry →
      test entry → (entries.filter test)[((entries.take index).filter test).length]? = some entry
  | [], _, _, held, _ => by simp at held
  | first :: rest, 0, entry, held, passes => by
      simp only [List.getElem?_cons_zero, Option.some.injEq] at held
      subst held
      simp [passes]
  | first :: rest, index + 1, entry, held, passes => by
      simp only [List.getElem?_cons_succ] at held
      have inner := filter_getElem?_take test held passes
      by_cases kept : test first
      · simpa [kept] using inner
      · simpa [kept] using inner

/-- Where an entry that passes a test is replaced by one that does, it is replaced in its place
among those that do. -/
theorem filter_set_of_pos {Entry : Type} (test : Entry → Bool) (new : Entry) :
    {entries : List Entry} → {index : Nat} → {entry : Entry} → entries[index]? = some entry →
      test entry → test new → (entries.set index new).filter test =
        (entries.filter test).set ((entries.take index).filter test).length new
  | [], _, _, held, _, _ => by simp at held
  | first :: rest, 0, entry, held, passes, renewed => by
      simp only [List.getElem?_cons_zero, Option.some.injEq] at held
      subst held
      simp [passes, renewed]
  | first :: rest, index + 1, entry, held, passes, renewed => by
      simp only [List.getElem?_cons_succ] at held
      have inner := filter_set_of_pos test new held passes renewed
      by_cases kept : test first
      · simp [kept, inner]
      · simp [kept, inner]

theorem filter_set_of_neg {Entry : Type} (test : Entry → Bool) (new : Entry) :
    {entries : List Entry} → {index : Nat} → {entry : Entry} → entries[index]? = some entry →
      ¬test entry → ¬test new → (entries.set index new).filter test = entries.filter test
  | [], _, _, held, _, _ => by simp at held
  | first :: rest, 0, entry, held, fails, renewed => by
      simp only [List.getElem?_cons_zero, Option.some.injEq] at held
      subst held
      simp [fails, renewed]
  | first :: rest, index + 1, entry, held, fails, renewed => by
      simp only [List.getElem?_cons_succ] at held
      have inner := filter_set_of_neg test new held fails renewed
      by_cases kept : test first
      · simp [kept, inner]
      · simp [kept, inner]

end List

namespace AdmissionControl

/-- A store call as its caller sees it. -/
structure Hearing where
  time : Instant
  operation : Operation
  answer : Answer operation.Result

def StoreCall.heard (call : StoreCall) : Hearing where
  time := call.time
  operation := call.operation
  answer := call.answer

/-- What was heard of the calls on one identity, in order. -/
def heardOf (identity : Identity) (calls : List StoreCall) : List Hearing :=
  (calls.filter fun call => call.operation.subject? = some identity).map StoreCall.heard

theorem heardOf_append (identity : Identity) (calls more : List StoreCall) :
    heardOf identity (calls ++ more) = heardOf identity calls ++ heardOf identity more := by
  simp [heardOf]

namespace Check

theorem subject?_operation (check : Check) (phase : Phase) :
    (check.operation phase).subject? = some check.identity := by
  cases phase <;> rfl

theorem concerns_operation (check : Check) (phase : Phase) :
    (check.operation phase).Concerns check.identity := by
  intro subject about
  rw [check.subject?_operation phase] at about
  exact (Option.some.inj about).symm

end Check

namespace Traffic

/-- The number of a check when only the checks of one identity are counted, by the identities of
the checks in the order of arrival. -/
def rank (identity : Identity) (arrived : List Identity) (number : Nat) : Nat :=
  ((arrived.take number).filter (· = identity)).length

/-- A move as it is made where only one identity is there, if it concerns no other. -/
def Move.within (identity : Identity) (arrived : List Identity) : Move → Option Move
  | .pass span => some (.pass span)
  | .arrive service address token =>
      if Identity.resolve address token = identity then some (.arrive service address token)
      else none
  | .proceed number =>
      if arrived[number]? = some identity then some (.proceed (rank identity arrived number))
      else none
  | .strand number =>
      if arrived[number]? = some identity then some (.strand (rank identity arrived number))
      else none
  | .cancel number =>
      if arrived[number]? = some identity then some (.cancel (rank identity arrived number))
      else none
  | .direct operation => if operation.Concerns identity then some (.direct operation) else none

/-- The identity of the check that arrives with a move. -/
def Move.arrival? : Move → Option Identity
  | .arrive _ address token => some (Identity.resolve address token)
  | _ => none

/-- Some moves without those that concern another identity, after some checks have arrived. -/
def concerning (identity : Identity) (arrived : List Identity) : List Move → List Move
  | [] => []
  | move :: rest =>
      (move.within identity arrived).toList ++
        concerning identity (arrived ++ move.arrival?.toList) rest

/-- The identities of the checks in the order of arrival. -/
def arrived (traffic : Traffic) : List Identity :=
  traffic.flights.map fun flight => flight.check.identity

/-- A traffic with the checks of one identity only, over a store that agrees on it. -/
structure Isolates (identity : Identity) (part whole : Traffic) : Prop where
  now : part.now = whole.now
  memory : part.memory.AgreesOn identity whole.now whole.memory
  flights : part.flights = whole.flights.filter fun flight => flight.check.identity = identity

variable {identity : Identity} {part whole : Traffic} {move : Move} {number : Nat}

theorem arrived_place {check : Check} {phase : Check.Phase} {state : FlightState}
    (pending : whole.pending? number = some (check, phase)) :
    (whole.place number check state).arrived = whole.arrived := by
  rcases List.getElem?_eq_some_iff.mp (pending?_eq_some_iff.mp pending) with ⟨inRange, held⟩
  apply List.ext_getElem?
  intro index
  by_cases here : number = index
  · subst here
    simp [arrived, place, inRange, held]
  · simp [arrived, place, List.getElem?_set_ne here]

@[simp]
theorem pending?_perform (operation : Operation) :
    (whole.perform operation).pending? number = whole.pending? number := rfl

@[simp]
theorem arrived_perform (operation : Operation) :
    (whole.perform operation).arrived = whole.arrived := rfl

theorem arrived_step (whole : Traffic) (move : Move) :
    (whole.step move).arrived = whole.arrived ++ move.arrival?.toList := by
  cases move with
  | pass span => simp [step, arrived, Move.arrival?]
  | arrive service address token => simp [step, arrived, Move.arrival?, Service.check]
  | direct operation => simp [step, arrived, perform, Move.arrival?]
  | proceed number =>
      cases pending : whole.pending? number with
      | none => simp [step, pending, Move.arrival?]
      | some waiter =>
          simp only [step, pending, Move.arrival?, Option.toList_none, List.append_nil]
          rw [arrived_place (by rwa [pending?_perform]), arrived_perform]
  | strand number =>
      cases pending : whole.pending? number with
      | none => simp [step, pending, Move.arrival?]
      | some waiter =>
          simp only [step, pending, Move.arrival?, Option.toList_none, List.append_nil]
          rw [arrived_place (by rwa [pending?_perform]), arrived_perform]
  | cancel number =>
      cases pending : whole.pending? number with
      | none => simp [step, pending, Move.arrival?]
      | some waiter =>
          simp only [step, pending, Move.arrival?, Option.toList_none, List.append_nil]
          exact arrived_place pending

theorem arrived_of_pending {check : Check} {phase : Check.Phase}
    (pending : whole.pending? number = some (check, phase)) :
    whole.arrived[number]? = some check.identity := by
  simp [arrived, pending?_eq_some_iff.mp pending]

theorem rank_arrived : rank identity whole.arrived number =
    ((whole.flights.take number).filter fun flight => flight.check.identity = identity).length := by
  simp [rank, arrived, ← List.map_take, List.filter_map, Function.comp_def]

namespace Isolates

variable {check : Check} {phase : Check.Phase} {operation : Operation}

/-- A check of the identity waits for the same in both. -/
theorem pending?_rank (isolates : Isolates identity part whole)
    (own : whole.arrived[number]? = some identity) :
    part.pending? (rank identity whole.arrived number) = whole.pending? number := by
  simp only [arrived, List.getElem?_map, Option.map_eq_some_iff] at own
  rcases own with ⟨flight, held, same⟩
  have kept := List.filter_getElem?_take
    (fun flight : Flight => flight.check.identity = identity) held (by simpa using same)
  rw [← isolates.flights, ← rank_arrived] at kept
  simp only [pending?, kept, held]

theorem place_own (isolates : Isolates identity part whole)
    (pending : whole.pending? number = some (check, phase)) (own : check.identity = identity)
    (state : FlightState) :
    Isolates identity (part.place (rank identity whole.arrived number) check state)
      (whole.place number check state) := by
  refine { isolates with flights := ?_ }
  have replaced := List.filter_set_of_pos
    (fun flight : Flight => flight.check.identity = identity) ⟨check, state⟩
    (pending?_eq_some_iff.mp pending) (by simpa using own) (by simpa using own)
  simp only [place, replaced, isolates.flights, rank_arrived]

theorem place_other (isolates : Isolates identity part whole)
    (pending : whole.pending? number = some (check, phase)) (other : check.identity ≠ identity)
    (state : FlightState) : Isolates identity part (whole.place number check state) := by
  refine { isolates with flights := ?_ }
  have same := List.filter_set_of_neg
    (fun flight : Flight => flight.check.identity = identity) ⟨check, state⟩
    (pending?_eq_some_iff.mp pending) (by simpa using other) (by simpa using other)
  simp only [place, same, isolates.flights]

/-- An operation that concerns no other identity is answered alike in both. -/
theorem perform_own (isolates : Isolates identity part whole)
    (concerns : operation.Concerns identity) :
    (part.memory.perform part.now operation).1 = (whole.memory.perform whole.now operation).1 ∧
      Isolates identity (part.perform operation) (whole.perform operation) := by
  rcases isolates.memory.perform concerns with ⟨same, agrees⟩
  rw [isolates.now]
  refine ⟨same, { isolates with memory := ?_ }⟩
  simpa only [perform, isolates.now] using agrees

theorem perform_other (isolates : Isolates identity part whole) {subject : Identity}
    (about : operation.subject? = some subject) (other : subject ≠ identity)
    (fits : operation.Fits whole.memory.window whole.now) :
    Isolates identity part (whole.perform operation) :=
  { isolates with memory := (isolates.memory.symm.perform_other about other fits).symm }

theorem heard_observe (isolates : Isolates identity part whole)
    (concerns : operation.Concerns identity) (partCaller caller : Option Nat) :
    (part.observe partCaller operation).heard = (whole.observe caller operation).heard := by
  have same := (isolates.perform_own concerns).1
  simp only [StoreCall.heard, observe, isolates.now] at same ⊢
  exact congrArg (Hearing.mk whole.now operation) same

theorem heardOf_observe (isolates : Isolates identity part whole)
    (concerns : operation.Concerns identity) (partCaller caller : Option Nat) :
    heardOf identity [part.observe partCaller operation] =
      heardOf identity [whole.observe caller operation] := by
  have heard := isolates.heard_observe concerns partCaller caller
  by_cases about : operation.subject? = some identity
  · simpa [heardOf, observe, about] using heard
  · simp [heardOf, observe, about]

/-- The next call of a check of the identity is answered alike in both, so the check comes to the
same state. -/
theorem call_own (isolates : Isolates identity part whole)
    (pending : whole.pending? number = some (check, phase)) (own : check.identity = identity)
    (state : Answer (check.operation phase).Result → FlightState) :
    Isolates identity
      ((part.perform (check.operation phase)).place (rank identity whole.arrived number) check
        (state (part.memory.perform part.now (check.operation phase)).1))
      ((whole.perform (check.operation phase)).place number check
        (state (whole.memory.perform whole.now (check.operation phase)).1)) := by
  have concerns : (check.operation phase).Concerns identity := by
    rw [← own]
    exact check.concerns_operation phase
  rcases isolates.perform_own concerns with ⟨same, performed⟩
  rw [same]
  exact performed.place_own (by rwa [pending?_perform]) own _

theorem call_other (isolates : Isolates identity part whole)
    (pending : whole.pending? number = some (check, phase)) (other : check.identity ≠ identity)
    (fits : (check.operation phase).Fits whole.memory.window whole.now) (state : FlightState) :
    Isolates identity part ((whole.perform (check.operation phase)).place number check state) :=
  (isolates.perform_other (check.subject?_operation phase) other fits).place_other
    (by rwa [pending?_perform]) other state

/-- A check takes its next step. Both kinds of move that make a store call are covered: they differ
in the state that the answer leads to. -/
theorem step_call (isolates : Isolates identity part whole) {make : Nat → Move}
    (settle : (check : Check) → (phase : Check.Phase) →
      Answer (check.operation phase).Result → FlightState)
    (steps : ∀ (traffic : Traffic) number, traffic.step (make number) =
      match traffic.pending? number with
      | none => traffic
      | some (check, phase) => (traffic.perform (check.operation phase)).place number check
          (settle check phase (traffic.memory.perform traffic.now (check.operation phase)).1))
    (calls : ∀ (traffic : Traffic) number, traffic.call? (make number) =
      (traffic.pending? number).map fun (check, phase) =>
        traffic.observe (some number) (check.operation phase))
    (within : ∀ arrived number, (make number).within identity arrived =
      if arrived[number]? = some identity then some (make (rank identity arrived number)) else none)
    (fits : ∀ call, whole.call? (make number) = some call →
      call.operation.subject? ≠ some identity →
        call.operation.Fits whole.memory.window call.time) :
    let left := ((make number).within identity whole.arrived).toList
    Isolates identity (part.run left) (whole.step (make number)) ∧
      heardOf identity (part.history left) =
        heardOf identity (whole.call? (make number)).toList := by
  intro left
  by_cases own : whole.arrived[number]? = some identity
  · have same := isolates.pending?_rank own
    simp only [left, within, own, if_true, Option.toList_some, run_cons, run_nil,
      history_singleton, steps, calls, same]
    cases pending : whole.pending? number with
    | none => exact ⟨isolates, rfl⟩
    | some waiter =>
        rcases waiter with ⟨check, phase⟩
        have mine : check.identity = identity := by
          rw [arrived_of_pending pending] at own
          exact Option.some.inj own
        refine ⟨isolates.call_own pending mine (settle check phase), ?_⟩
        apply isolates.heardOf_observe
        rw [← mine]
        exact check.concerns_operation phase
  · have nothing : left = [] := by
      simp [left, within, own]
    rw [nothing, run_nil, steps, calls]
    cases pending : whole.pending? number with
    | none => exact ⟨isolates, rfl⟩
    | some waiter =>
        rcases waiter with ⟨check, phase⟩
        have other : check.identity ≠ identity := by
          rintro rfl
          exact own (arrived_of_pending pending)
        have about := check.subject?_operation phase
        have foreign : (check.operation phase).subject? ≠ some identity := by
          rw [about]
          exact fun same => other (Option.some.inj same)
        have fitsNow : (check.operation phase).Fits whole.memory.window whole.now :=
          fits (whole.observe (some number) (check.operation phase)) (by simp [calls, pending])
            foreign
        refine ⟨isolates.call_other pending other fitsNow _, ?_⟩
        simp [history, heardOf, observe, foreign]

/-- Whatever move is next, what is left of it keeps the two traffics side by side, and the same is
heard of the identity in both. -/
theorem step (isolates : Isolates identity part whole) (move : Move)
    (fits : ∀ call, whole.call? move = some call → call.operation.subject? ≠ some identity →
      call.operation.Fits whole.memory.window call.time) :
    let left := (move.within identity whole.arrived).toList
    Isolates identity (part.run left) (whole.step move) ∧
      heardOf identity (part.history left) = heardOf identity (whole.call? move).toList := by
  intro left
  cases move with
  | pass span =>
      have later : whole.now ≤ whole.now.shift span := Nat.le_add_right _ _
      refine ⟨?_, rfl⟩
      exact ⟨congrArg (Instant.shift · span) isolates.now, isolates.memory.later later,
        isolates.flights⟩
  | arrive service address token =>
      by_cases own : Identity.resolve address token = identity
      · simp only [left, Move.within, own, if_true]
        refine ⟨{ isolates with flights := ?_ }, rfl⟩
        simp [Traffic.step, isolates.flights, Service.check, own]
      · simp only [left, Move.within, own, if_false]
        refine ⟨{ isolates with flights := ?_ }, rfl⟩
        simp [Traffic.step, isolates.flights, Service.check, own]
  | proceed number =>
      exact isolates.step_call (fun check phase => check.settle phase)
        (fun _ _ => rfl) (fun _ _ => rfl) (fun _ _ => rfl) fits
  | strand number =>
      exact isolates.step_call (fun _ _ _ => .finished .unanswered)
        (fun _ _ => rfl) (fun _ _ => rfl) (fun _ _ => rfl) fits
  | cancel number =>
      refine ⟨?_, ?_⟩
      · by_cases own : whole.arrived[number]? = some identity
        · have same := isolates.pending?_rank own
          simp only [left, Move.within, own, if_true, Option.toList_some, run_cons, run_nil,
            Traffic.step, same]
          cases pending : whole.pending? number with
          | none => exact isolates
          | some waiter =>
              rcases waiter with ⟨check, phase⟩
              have mine : check.identity = identity := by
                rw [arrived_of_pending pending] at own
                exact Option.some.inj own
              exact isolates.place_own pending mine _
        · simp only [left, Move.within, own, if_false, Option.toList_none, run_nil, Traffic.step]
          cases pending : whole.pending? number with
          | none => exact isolates
          | some waiter =>
              rcases waiter with ⟨check, phase⟩
              have other : check.identity ≠ identity := by
                rintro rfl
                exact own (arrived_of_pending pending)
              exact isolates.place_other pending other _
      · by_cases own : whole.arrived[number]? = some identity <;>
          simp [left, Move.within, own, history, call?]
  | direct operation =>
      by_cases concerns : operation.Concerns identity
      · simp only [left, Move.within, concerns, if_true, Option.toList_some, run_cons, run_nil,
          history_singleton, call?]
        exact ⟨(isolates.perform_own concerns).2, isolates.heardOf_observe concerns _ _⟩
      · rcases Operation.subject_of_not_concerns concerns with ⟨subject, about, other⟩
        have foreign : operation.subject? ≠ some identity := by
          rw [about]
          exact fun same => other (Option.some.inj same)
        simp only [left, Move.within, concerns, if_false, Option.toList_none, run_nil]
        refine ⟨isolates.perform_other about other (fits _ rfl foreign), ?_⟩
        simp [history, call?, heardOf, observe, foreign]

/-- The whole traffic and what is left of it run side by side. -/
theorem run (isolates : Isolates identity part whole) (moves : List Move)
    (fits : ∀ call ∈ whole.history moves, call.operation.subject? ≠ some identity →
      call.operation.Fits whole.memory.window call.time) :
    Isolates identity (part.run (concerning identity whole.arrived moves)) (whole.run moves) ∧
      heardOf identity (part.history (concerning identity whole.arrived moves)) =
        heardOf identity (whole.history moves) := by
  induction moves generalizing part whole with
  | nil => exact ⟨isolates, rfl⟩
  | cons move rest ih =>
      have fitsNow : ∀ call, whole.call? move = some call →
          call.operation.subject? ≠ some identity →
            call.operation.Fits whole.memory.window call.time := by
        intro call made
        exact fits call (List.mem_append_left _ (by simp [made]))
      have fitsLater : ∀ call ∈ (whole.step move).history rest,
          call.operation.subject? ≠ some identity →
            call.operation.Fits (whole.step move).memory.window call.time := by
        have sameWindow : (whole.step move).memory.window = whole.memory.window :=
          (whole.log_step move).window_eq
        intro call made
        rw [sameWindow]
        exact fits call (List.mem_append_right _ made)
      rcases isolates.step move fitsNow with ⟨onward, heardNow⟩
      rcases ih onward fitsLater with ⟨finish, heardLater⟩
      rw [arrived_step] at finish heardLater
      simp only [concerning, run_append, history_append, run_cons, history]
      refine ⟨finish, ?_⟩
      rw [heardOf_append, heardOf_append, heardNow, heardLater]

end Isolates

theorem isolates_fresh (window : Duration) :
    Isolates identity (fresh window) (fresh window) where
  now := rfl
  memory := .refl _
  flights := rfl

/-- A service asked with a token makes the same check wherever the client came from. -/
theorem step_arrive_of_token {token : String} (present : token ≠ "") (traffic : Traffic)
    (service : Service) (address other : String) :
    traffic.step (.arrive service address token) = traffic.step (.arrive service other token) := by
  simp [step, Service.check, Identity.resolve_of_ne_empty present]

/-- Distinct identities never influence each other. Where the moves that concern others are left
out, each check of an identity comes to the same end, each call on it gets the same answer at the
same time, and the same count and block are seen afterwards. In particular a client with a token
cannot be seen under any address, and it makes no difference where it came from. -/
theorem others_unobservable {window : Duration} {moves : List Move}
    (fits : ∀ call ∈ (fresh window).history moves, call.operation.subject? ≠ some identity →
      call.operation.Fits window call.time) :
    let alone := concerning identity [] moves
    let part := (fresh window).run alone
    let whole := (fresh window).run moves
    part.now = whole.now ∧
    part.flights = (whole.flights.filter fun flight => flight.check.identity = identity) ∧
    heardOf identity ((fresh window).history alone) =
      heardOf identity ((fresh window).history moves) ∧
    (∀ later, whole.now ≤ later →
      part.memory.count later identity = whole.memory.count later identity ∧
        part.memory.blocked later identity = whole.memory.blocked later identity) ∧
    ∀ (service : Service) (address token : String), token ≠ "" →
      (∀ host, (service.check address token).identity ≠ .ip host) ∧
      ∀ other earlier rest,
        (fresh window).run (earlier ++ .arrive service address token :: rest) =
            (fresh window).run (earlier ++ .arrive service other token :: rest) ∧
          (fresh window).history (earlier ++ .arrive service address token :: rest) =
            (fresh window).history (earlier ++ .arrive service other token :: rest) := by
  intro alone part whole
  rcases (isolates_fresh window).run moves fits with ⟨isolates, heard⟩
  refine ⟨isolates.now, isolates.flights, heard, ?_, ?_⟩
  · intro later notBefore
    have agrees := isolates.memory.later notBefore
    exact ⟨agrees.count_eq, agrees.blocked_eq⟩
  · intro service address token present
    constructor
    · intro host
      simp [Service.check, Identity.resolve_of_ne_empty present]
    · intro other earlier rest
      have same := step_arrive_of_token present ((fresh window).run earlier) service address other
      simp [run_append, history_append, history, call?, same]

/-- A client with a token beside one of the same address without. The client with the token counts,
is blocked and sweeps at the very end of the window of the other. -/
def shared : List Move :=
  [.arrive (serviceOf 1) "10.0.0.1" "abc", .arrive (serviceOf 1) "10.0.0.1" "", .proceed 0,
    .proceed 1, .proceed 0, .proceed 1, .direct (.block (.token "abc") (.ofSeconds 5)),
    .pass (.ofSeconds 1), .direct (.increment (.token "abc")),
    .arrive (serviceOf 1) "10.0.0.1" "", .proceed 2, .direct (.reset (.token "abc")), .proceed 2]

theorem others_unobservable_of_shared :
    let alone : List Move :=
      [.arrive (serviceOf 1) "10.0.0.1" "", .proceed 0, .proceed 0, .pass (.ofSeconds 1),
        .arrive (serviceOf 1) "10.0.0.1" "", .proceed 1, .proceed 1]
    ((fresh (.ofSeconds 1)).run alone).flights =
        (((fresh (.ofSeconds 1)).run shared).flights.filter
          fun flight => flight.check.identity = .ip "10.0.0.1") ∧
      ((fresh (.ofSeconds 1)).run alone).returned? 1 =
        some (.ofCount (.ip "10.0.0.1") 1 1) := by
  intro alone
  have same := @others_unobservable (.ip "10.0.0.1") (.ofSeconds 1) shared (by decide)
  exact ⟨same.2.1, by decide⟩

end Traffic

end AdmissionControl

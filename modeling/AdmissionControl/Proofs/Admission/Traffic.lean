import AdmissionControl.Admission.Burst
import AdmissionControl.Proofs.Admission.Course
import AdmissionControl.Proofs.Store.Log

/-!
# Traffic over a store in memory

Any number of admission checks, of any number of services, run side by side over one store. What
may happen next is a `Traffic.Move`: time passes, a check arrives, a check makes its next store
call, a check is given up, or somebody else calls the store. Moves come in any order, so a list of
moves is a schedule, and what holds of every list of moves holds of every interleaving.

A check is given up, because its time limit passed or its client is gone, at one of two points:
before its next store call takes effect (`Move.cancel`), or after the call took effect but before
the answer arrived (`Move.strand`). A service is asked without regard to its time limit, since a
check may be given up at any time.

A move makes one store call at most. `Traffic.history` lists the calls in the order in which they
took effect, and is a log of the store (`Traffic.log_history`). A service that is left alone decides
as one such schedule does (`Traffic.decideOn_alone`).
-/

namespace AdmissionControl

/-- Where a check stands once the answer to a phase has arrived. -/
def Check.settle (check : Check) (phase : Check.Phase)
    (answer : Answer (check.operation phase).Result) : FlightState :=
  match answer with
  | .error failure => .finished (.answered (.error failure))
  | .ok result =>
      match check.advance phase result with
      | .decided decision => .finished (.answered (.ok decision))
      | .waiting next _ => .waiting next

namespace Check

variable {check : Check}

/-- What the answer to a phase can lead to. -/
inductive Settled (check : Check) :
    (phase : Phase) → Answer (check.operation phase).Result → FlightState → Prop
  | failed (phase : Phase) (failure : Failure) :
      Settled check phase (.error failure) (.finished (.answered (.error failure)))
  | blocked : Settled check .lookup (.ok true)
      (.finished (.answered (.ok (.ofBlocked check.identity check.limit))))
  | free : Settled check .lookup (.ok false) (.waiting .count)
  | within {count : UInt64} (within : count ≤ check.limit) : Settled check .count (.ok count)
      (.finished (.answered (.ok (.ofCount check.identity check.limit count))))
  | beyond {count : UInt64} (beyond : ¬count ≤ check.limit) :
      Settled check .count (.ok count) (.waiting (.block count))
  | set (count : UInt64) : Settled check (.block count) (.ok ())
      (.finished (.answered (.ok (.ofCount check.identity check.limit count))))

theorem settled (phase : Phase) (answer : Answer (check.operation phase).Result) :
    check.Settled phase answer (check.settle phase answer) := by
  cases answer with
  | error failure => exact .failed phase failure
  | ok result =>
      cases phase with
      | lookup =>
          cases result with
          | true => exact .blocked
          | false => exact .free
      | count =>
          by_cases within : result ≤ check.limit
          · have decided : check.settle .count (.ok result) = .finished (.answered
                (.ok (.ofCount check.identity check.limit result))) := by
              simp [settle, advance, within]
            rw [decided]
            exact .within within
          · have waiting : check.settle .count (.ok result) = .waiting (.block result) := by
              simp [settle, advance, within]
            rw [waiting]
            exact .beyond within
      | block count => exact .set count

theorem callsLeft_of_waiting {phase next : Check.Phase}
    {result : (check.operation phase).Result} {later : next.callsLeft < phase.callsLeft}
    (progress : check.advance phase result = .waiting next later) :
    phase.callsLeft - 1 = next.callsLeft := by
  cases phase with
  | lookup =>
      cases result with
      | true => cases progress
      | false =>
          cases progress
          rfl
  | count =>
      simp only [advance] at progress
      split at progress
      · cases progress
      · cases progress
        rfl
  | block count => cases progress

end Check

deriving instance DecidableEq for Limits

/-- The check that services with given limits make for an identity. -/
def Limits.checkFor (limits : Limits) (identity : Identity) : Check where
  identity
  limit := limits.limitFor identity
  blockSpan := limits.blockSpan

/-- Admission checks side by side over one store in memory. A check is known by its number in the
order of arrival. -/
structure Traffic where
  now : Instant
  memory : Memory
  flights : List Flight

namespace Traffic

/-- What may happen next. -/
inductive Move where
  | pass (span : Duration)
  /-- A client with an address and perhaps a token asks a service for admission. -/
  | arrive (service : Service) (address token : String)
  /-- A check makes its next store call and hears the answer. -/
  | proceed (number : Nat)
  /-- A check makes its next store call and is given up before it hears the answer. -/
  | strand (number : Nat)
  /-- A check is given up before its next store call. -/
  | cancel (number : Nat)
  /-- The store is called by somebody who is not an admission check. -/
  | direct (operation : Operation)

/-- Every service that is asked in some moves has the same limits. -/
def SharedLimits (limits : Limits) (moves : List Move) : Prop :=
  ∀ service address token, Move.arrive service address token ∈ moves → service.limits = limits

/-- Whether a move asks no service with other limits. -/
def Move.keeps (limits : Limits) : Move → Bool
  | .arrive service _ _ => service.limits = limits
  | _ => true

theorem sharedLimits_iff {limits : Limits} {moves : List Move} :
    SharedLimits limits moves ↔ ∀ move ∈ moves, move.keeps limits := by
  constructor
  · intro shared move member
    cases move with
    | arrive service address token => exact decide_eq_true (shared service address token member)
    | _ => rfl
  · intro kept service address token arrives
    exact of_decide_eq_true (kept _ arrives)

instance (limits : Limits) (moves : List Move) : Decidable (SharedLimits limits moves) :=
  decidable_of_iff _ sharedLimits_iff.symm

/-- A service that lets each client make so many requests in a window, and blocks it for five
minutes if it makes more. -/
def serviceOf (limit : UInt64) : Service where
  limits := { ipLimit := limit, tokenLimit := limit, blockSpan := .ofSeconds 300 }
  timeout := none

/-- A fresh store and no checks. -/
def fresh (window : Duration) : Traffic where
  now := .origin
  memory := .new window
  flights := []

def moment (traffic : Traffic) : Moment where
  now := traffic.now
  memory := traffic.memory

/-- A check that is not finished, and the phase it waits in. -/
def pending? (traffic : Traffic) (number : Nat) : Option (Check × Check.Phase) :=
  match traffic.flights[number]? with
  | some { check, state := .waiting phase } => some (check, phase)
  | _ => none

/-- A store call as it takes effect now. -/
def observe (traffic : Traffic) (caller : Option Nat) (operation : Operation) : StoreCall where
  time := traffic.now
  caller
  operation
  answer := (traffic.memory.perform traffic.now operation).1
  before := traffic.memory
  after := (traffic.memory.perform traffic.now operation).2

/-- The store call that a move makes, if it makes one. -/
def call? (traffic : Traffic) : Move → Option StoreCall
  | .pass _ => none
  | .arrive _ _ _ => none
  | .proceed number | .strand number =>
      (traffic.pending? number).map fun (check, phase) =>
        traffic.observe (some number) (check.operation phase)
  | .cancel _ => none
  | .direct operation => some (traffic.observe none operation)

/-- The traffic with a check at a new state. -/
def place (traffic : Traffic) (number : Nat) (check : Check) (state : FlightState) : Traffic :=
  { traffic with flights := traffic.flights.set number { check, state } }

/-- The traffic after the store performed an operation. -/
def perform (traffic : Traffic) (operation : Operation) : Traffic :=
  { traffic with memory := (traffic.memory.perform traffic.now operation).2 }

/-- The traffic after a move. A move of a check that is finished, or not there, changes nothing. -/
def step (traffic : Traffic) : Move → Traffic
  | .pass span => { traffic with now := traffic.now.shift span }
  | .arrive service address token =>
      { traffic with
        flights := traffic.flights ++
          [{ check := service.check address token, state := .waiting .lookup }] }
  | .proceed number =>
      match traffic.pending? number with
      | none => traffic
      | some (check, phase) =>
          (traffic.perform (check.operation phase)).place number check
            (check.settle phase (traffic.memory.perform traffic.now (check.operation phase)).1)
  | .strand number =>
      match traffic.pending? number with
      | none => traffic
      | some (check, phase) =>
          (traffic.perform (check.operation phase)).place number check (.finished .unanswered)
  | .cancel number =>
      match traffic.pending? number with
      | none => traffic
      | some (check, _) => traffic.place number check (.finished .unanswered)
  | .direct operation => traffic.perform operation

def run (traffic : Traffic) (moves : List Move) : Traffic :=
  moves.foldl step traffic

/-- The store calls that some moves make, in the order in which they take effect. -/
def history (traffic : Traffic) : List Move → List StoreCall
  | [] => []
  | move :: rest => (traffic.call? move).toList ++ (traffic.step move).history rest

/-- The decision that a check returned. -/
def returned? (traffic : Traffic) (number : Nat) : Option Decision :=
  match traffic.flights[number]? with
  | some { state := .finished (.answered (.ok decision)), .. } => some decision
  | _ => none

def allows (traffic : Traffic) (number : Nat) : Bool :=
  (traffic.returned? number).any Decision.allowed

/-- The checks that let their clients proceed and made one of some calls. -/
def admittedBy (traffic : Traffic) (calls : List StoreCall) : List Nat :=
  (List.range traffic.flights.length).filter fun number =>
    traffic.allows number && calls.any fun call => call.caller = some number

variable {traffic : Traffic} {moves more : List Move} {move : Move} {number : Nat}

@[simp]
theorem run_nil : traffic.run [] = traffic := rfl

@[simp]
theorem run_cons : traffic.run (move :: moves) = (traffic.step move).run moves := rfl

theorem run_append : traffic.run (moves ++ more) = (traffic.run moves).run more :=
  List.foldl_append ..

theorem history_append :
    traffic.history (moves ++ more) =
      traffic.history moves ++ (traffic.run moves).history more := by
  induction moves generalizing traffic with
  | nil => rfl
  | cons move rest ih => simp [history, ih, List.append_assoc]

theorem history_singleton : traffic.history [move] = (traffic.call? move).toList := by
  simp [history]

theorem pending?_eq_some_iff {check : Check} {phase : Check.Phase} :
    traffic.pending? number = some (check, phase) ↔
      traffic.flights[number]? = some { check, state := .waiting phase } := by
  unfold pending?
  split
  · next held => simp [held]
  · next other =>
      constructor
      · intro absurd
        cases absurd
      · intro held
        exact absurd held (other check phase)

theorem returned?_eq_some_iff {decision : Decision} :
    traffic.returned? number = some decision ↔
      ∃ check, traffic.flights[number]? =
        some { check, state := .finished (.answered (.ok decision)) } := by
  unfold returned?
  split
  · next held => simp [held]
  · next other =>
      constructor
      · intro absurd
        cases absurd
      · rintro ⟨check, held⟩
        exact absurd held (other check decision)

/-! ## The log of the store -/

theorem step_of_call? {call : StoreCall} (made : traffic.call? move = some call) :
    call.time = traffic.now ∧ call.before = traffic.memory ∧ call.Performed ∧
      (traffic.step move).moment = ⟨traffic.now, call.after⟩ := by
  cases move with
  | pass span => cases made
  | arrive service address token => cases made
  | proceed number =>
      simp only [call?, Option.map_eq_some_iff] at made
      rcases made with ⟨⟨check, phase⟩, waiting, rfl⟩
      exact ⟨rfl, rfl, rfl, by simp [step, waiting, moment, place, perform, observe]⟩
  | strand number =>
      simp only [call?, Option.map_eq_some_iff] at made
      rcases made with ⟨⟨check, phase⟩, waiting, rfl⟩
      exact ⟨rfl, rfl, rfl, by simp [step, waiting, moment, place, perform, observe]⟩
  | cancel number => cases made
  | direct operation =>
      cases made
      exact ⟨rfl, rfl, rfl, rfl⟩

/-- A move without a store call leaves the store alone, and never turns back the clock. -/
theorem step_of_no_call (quiet : traffic.call? move = none) :
    traffic.now ≤ (traffic.step move).now ∧ (traffic.step move).memory = traffic.memory := by
  cases move with
  | pass span => exact ⟨Nat.le_add_right _ _, rfl⟩
  | arrive service address token => exact ⟨Nat.le_refl _, rfl⟩
  | proceed number =>
      simp only [call?, Option.map_eq_none_iff] at quiet
      simp only [step, quiet, and_true]
      exact Nat.le_refl _
  | strand number =>
      simp only [call?, Option.map_eq_none_iff] at quiet
      simp only [step, quiet, and_true]
      exact Nat.le_refl _
  | cancel number =>
      simp only [step]
      split
      · exact ⟨Nat.le_refl _, rfl⟩
      · exact ⟨Nat.le_refl _, rfl⟩
  | direct operation => cases quiet

theorem log_step (traffic : Traffic) (move : Move) :
    StoreLog traffic.moment (traffic.call? move).toList (traffic.step move).moment := by
  cases made : traffic.call? move with
  | none =>
      rcases step_of_no_call made with ⟨later, same⟩
      exact .quiet later same
  | some call =>
      rcases step_of_call? made with ⟨time, before, performed, after⟩
      rw [after, ← time]
      exact .call (Nat.le_of_eq (congrArg Instant.nanoseconds time.symm)) before performed
        (.quiet (Nat.le_refl _) rfl)

/-- What the checks and everybody else do to the store is a log of it. -/
theorem log_history (traffic : Traffic) (moves : List Move) :
    StoreLog traffic.moment (traffic.history moves) (traffic.run moves).moment := by
  induction moves generalizing traffic with
  | nil => exact .quiet (Nat.le_refl _) rfl
  | cons move rest ih => exact (traffic.log_step move).append (ih (traffic.step move))

/-! ## Traffic and the ways in which the service runs a check -/

/-- A check makes its next call in a burst as it does in traffic. -/
theorem proceed_in_burst {flight : Flight} {phase : Check.Phase} {timeline : Timeline Memory}
    (waiting : flight.state = .waiting phase) :
    let outcome := timeline.contents.perform timeline.now (flight.check.operation phase)
    (flight.proceed Memory.store timeline.now timeline).1 =
        { flight with state := flight.check.settle phase outcome.1 } ∧
      (flight.proceed Memory.store timeline.now timeline).2.contents = outcome.2 ∧
      (flight.proceed Memory.store timeline.now timeline).2.now = timeline.now := by
  rcases flight with ⟨check, state⟩
  simp only at waiting
  subst waiting
  cases performed : timeline.contents.perform timeline.now (check.operation phase) with
  | mk answer after =>
      cases answer with
      | error failure =>
          simp [Flight.proceed, Timeline.call, Timeline.moveTo, Memory.store, performed,
            Check.settle]
      | ok result =>
          cases progress : check.advance phase result with
          | decided decision =>
              simp [Flight.proceed, Timeline.call, Timeline.moveTo, Memory.store, performed,
                Check.settle, progress]
          | waiting next earlier =>
              simp [Flight.proceed, Timeline.call, Timeline.moveTo, Timeline.logAll, Memory.store,
                performed, Check.settle, progress]

theorem run_of_finished {check : Check} {completion : Completion Decision}
    (finished : traffic.flights[number]? = some ⟨check, .finished completion⟩) (times : Nat) :
    traffic.run (List.replicate times (.proceed number)) = traffic := by
  have idle : traffic.step (.proceed number) = traffic := by
    have absent : traffic.pending? number = none := by simp [pending?, finished]
    simp [step, absent]
  induction times with
  | zero => rfl
  | succ times ih => rw [List.replicate_succ, run_cons, idle, ih]

/-- A check that runs by itself makes the calls that it makes in traffic when nobody else moves, and
comes to the same end. -/
theorem runFrom_alone (traffic : Traffic) {check : Check} (phase : Check.Phase)
    {timeline : Timeline Memory} (deadline : Option Instant)
    (waiting : traffic.flights[number]? = some ⟨check, .waiting phase⟩)
    (now : timeline.now = traffic.now) (contents : timeline.contents = traffic.memory) :
    let outcome := check.runFrom Memory.store deadline phase timeline
    let finish := traffic.run (List.replicate phase.callsLeft (.proceed number))
    ∃ answer, outcome.1 = .answered answer ∧
      finish.flights[number]? = some ⟨check, .finished (.answered answer)⟩ ∧
      outcome.2.contents = finish.memory ∧ outcome.2.now = finish.now := by
  intro outcome finish
  have inRange := (List.getElem?_eq_some_iff.mp waiting).1
  have pending := pending?_eq_some_iff.mpr waiting
  cases performed : traffic.memory.perform traffic.now (check.operation phase) with
  | mk answer after =>
      have placed : traffic.step (.proceed number) =
          ⟨traffic.now, after, traffic.flights.set number ⟨check, check.settle phase answer⟩⟩ := by
        simp [step, pending, perform, place, performed]
      have own : (traffic.step (.proceed number)).flights[number]? =
          some ⟨check, check.settle phase answer⟩ := by
        rw [placed]
        exact List.getElem?_set_self inRange
      have called : timeline.call Memory.store deadline (check.operation phase) =
          (.answered answer, { timeline with
            contents := after
            calls := timeline.calls ++ [(timeline.now, check.operation phase)] }) := by
        rw [← now, ← contents] at performed
        rw [Timeline.call_memory deadline (congrArg Prod.fst performed), performed]
      have first : List.replicate phase.callsLeft (Move.proceed number) =
          .proceed number :: List.replicate (phase.callsLeft - 1) (.proceed number) := by
        cases phase <;> rfl
      simp only [outcome, finish]
      rw [first, run_cons, Check.runFrom, called]
      cases answer with
      | error failure =>
          rw [run_of_finished own, placed]
          exact ⟨_, rfl, List.getElem?_set_self inRange, rfl, now⟩
      | ok result =>
          cases progress : check.advance phase result with
          | decided decision =>
              have settled : check.settle phase (.ok result) =
                  .finished (.answered (.ok decision)) := by
                simp [Check.settle, progress]
              rw [settled] at own
              rw [run_of_finished own]
              simp only [progress]
              exact ⟨_, rfl, own, by rw [placed], by rw [placed]; exact now⟩
          | waiting next later =>
              have settled : check.settle phase (.ok result) = .waiting next := by
                simp [Check.settle, progress]
              rw [settled] at own
              simp only [progress]
              rw [Check.callsLeft_of_waiting progress]
              exact runFrom_alone _ next deadline own (by rw [placed]; exact now)
                (by rw [placed]; rfl)
termination_by phase.callsLeft

/-- A service that decides about a client by itself does what it does in traffic when nobody else
moves, whatever its time limit: the store in memory answers at once. -/
theorem decideOn_alone (traffic : Traffic) (service : Service) (address token : String)
    {timeline : Timeline Memory} (now : timeline.now = traffic.now)
    (contents : timeline.contents = traffic.memory) :
    let outcome := service.decideOn Memory.store address token timeline
    let number := traffic.flights.length
    let finish := traffic.run
      (.arrive service address token :: List.replicate 3 (.proceed number))
    finish.flights[number]? = some ⟨service.check address token, .finished outcome.1⟩ ∧
      outcome.2.contents = finish.memory ∧ outcome.2.now = finish.now := by
  intro outcome number finish
  have arrived : (traffic.step (.arrive service address token)).flights[number]? =
      some ⟨service.check address token, .waiting .lookup⟩ := by
    simp [step, number]
  rcases runFrom_alone (traffic.step (.arrive service address token)) .lookup
    (service.deadline timeline.now) arrived now contents with ⟨answer, answered, finished, same⟩
  have completed : outcome.1 = .answered answer := by
    simp only [outcome, Service.decideOn_eq]
    exact congrArg service.conclude answered
  have after : outcome.2 =
      ((service.check address token).run Memory.store (service.deadline timeline.now) timeline).2 := by
    simp only [outcome, Service.decideOn_eq]
  rw [completed, after]
  exact ⟨finished, same⟩

end Traffic

end AdmissionControl

import AdmissionControl.Proofs.Admission.Refusal
import AdmissionControl.Proofs.Admission.Traffic

/-!
# A store in memory that fails

There are two things that a store in memory never recovers from: it is closed, or an operation whose
end the clock cannot hold is abandoned in the middle and spoils it. After either it refuses
everything, and how each call fails is settled by the calls before it (`Traffic.failure?_of_history`):
with the fault of a closed store once it was closed, and until then with that of a spoilt one.

While the store refuses everything the traffic over it is at a standstill (`Traffic.Standstill`):
checks come to an end with the fault, and none returns a decision.
-/

namespace AdmissionControl

namespace StoreCall

def failure? (call : StoreCall) : Option Failure :=
  match call.answer with
  | .ok _ => none
  | .error failure => some failure

def closes (call : StoreCall) : Bool :=
  call.operation = .close

def isAbandoned (call : StoreCall) : Bool :=
  match call.failure? with
  | some .abandoned => true
  | _ => false

/-- Why a store refuses everything after some calls, if it does. -/
def fault? (earlier : List StoreCall) : Option Fault :=
  if earlier.any closes then some .storeClosed
  else if earlier.any isAbandoned then some (.internal "Failed to acquire storage lock")
  else none

/-- Once a store refuses everything it never does anything else, but being closed goes before being
spoilt. -/
theorem fault?_append {earlier : List StoreCall} {fault : Fault}
    (failed : fault? earlier = some fault) (more : List StoreCall) :
    fault? (earlier ++ more) = some (if more.any closes then .storeClosed else fault) := by
  unfold fault? at failed ⊢
  rw [List.any_append, List.any_append]
  by_cases closed : earlier.any closes = true
  · rw [if_pos closed] at failed
    cases failed
    simp only [closed, Bool.true_or, if_true, ite_self]
  · rw [if_neg closed] at failed
    by_cases abandoned : earlier.any isAbandoned = true
    · rw [if_pos abandoned] at failed
      cases failed
      simp only [closed, abandoned, Bool.false_or, Bool.true_or, if_true]
      split <;> rfl
    · rw [if_neg abandoned] at failed
      cases failed

/-- How a call fails that is made after some others to a store with a window, if it does. -/
def expectedFailure? (window : Duration) (earlier : List StoreCall) (call : StoreCall) :
    Option Failure :=
  if call.closes then none
  else
    match fault? earlier with
    | some fault => some (.reported fault)
    | none => if call.operation.Fits window call.time then none else some .abandoned

end StoreCall

/-! ## What an operation comes to -/

namespace Memory

variable {memory : Memory} {now : Instant} {operation : Operation} {fault : Fault}

theorem perform_of_obstacle (obstacle : memory.obstacle? = some fault) (kept : operation ≠ .close) :
    memory.perform now operation = (.error (.reported fault), memory) := by
  cases operation with
  | close => exact absurd rfl kept
  | _ => exact guarded_eq_of_obstacle obstacle

theorem refuses_of_obstacle (obstacle : memory.obstacle? = some fault) :
    store.Refuses fault memory where
  fails := by
    intro operation now kept
    simp only [store, perform_of_obstacle obstacle kept]
  closes _ := rfl

/-- An operation whose end the clock cannot hold is abandoned, and spoils the store. -/
theorem perform_of_overflow (reachable : memory.obstacle? = none)
    (overflow : ¬operation.Fits memory.window now) :
    (memory.perform now operation).1 = .error .abandoned ∧
      (memory.perform now operation).2.spoilt = true := by
  have beyond {span : Duration} (past : ¬(now.shift span).nanoseconds < Instant.horizon) :
      now.after? span = none := by
    simpa [Instant.after?] using past
  cases operation with
  | increment identity =>
      rw [perform, guarded_eq_of_open reachable, increment_of_overflow (beyond overflow)]
      exact ⟨rfl, rfl⟩
  | block identity span =>
      rw [perform, guarded_eq_of_open reachable, block_of_overflow (beyond overflow)]
      exact ⟨rfl, rfl⟩
  | _ => exact absurd trivial overflow

end Memory

namespace StoreCall.Performed

variable {call : StoreCall}

/-- The failure of a call is settled by the store that it finds. -/
theorem failure?_eq (performed : call.Performed) :
    call.failure? =
      if call.closes then none
      else
        match call.before.obstacle? with
        | some fault => some (.reported fault)
        | none =>
            if call.operation.Fits call.before.window call.time then none else some .abandoned := by
  have answered := performed.answer_eq
  rcases call with ⟨time, caller, operation, answer, before, after⟩
  simp only [failure?, closes, decide_eq_true_eq] at answered ⊢
  by_cases close : operation = .close
  · subst close
    cases answered
    rfl
  · rw [if_neg close]
    cases obstacle : before.obstacle? with
    | some fault =>
        rw [Memory.perform_of_obstacle obstacle close] at answered
        cases answered
        rfl
    | none =>
        simp only
        by_cases fits : operation.Fits before.window time
        · rcases Memory.perform_of_fits obstacle fits with ⟨result, succeeded⟩
          rw [answered, succeeded, if_pos fits]
        · rw [answered, (Memory.perform_of_overflow obstacle fits).1, if_neg fits]

theorem closed_after (performed : call.Performed) :
    call.after.closed = (call.before.closed || call.closes) := by
  rw [performed.after_eq]
  by_cases close : call.operation = .close
  · have closes : call.closes = true := decide_eq_true close
    rw [closes, Bool.or_true, close]
    rfl
  · have stays : call.closes = false := decide_eq_false close
    rw [Memory.perform_closed close, stays, Bool.or_false]

theorem spoilt_after (performed : call.Performed) :
    call.after.spoilt = (call.before.spoilt || call.isAbandoned) := by
  have failed := performed.failure?_eq
  rw [performed.after_eq, isAbandoned, failed]
  by_cases close : call.operation = .close
  · have closes : call.closes = true := decide_eq_true close
    rw [if_pos closes, close]
    exact (Bool.or_false _).symm
  · have stays : ¬call.closes = true := by simpa [closes] using close
    rw [if_neg stays]
    cases obstacle : call.before.obstacle? with
    | some fault =>
        rw [Memory.perform_of_obstacle obstacle close]
        exact (Bool.or_false _).symm
    | none =>
        by_cases fits : call.operation.Fits call.before.window call.time
        · simp only [if_pos fits, Memory.perform_spoilt fits, Bool.or_false]
        · simp only [if_neg fits, (Memory.perform_of_overflow obstacle fits).2, Bool.or_true]

end StoreCall.Performed

/-! ## What a run of calls comes to -/

namespace StoreLog

variable {start finish : Moment} {calls : List StoreCall}

theorem closed_eq (log : StoreLog start calls finish) :
    finish.memory.closed = (start.memory.closed || calls.any StoreCall.closes) := by
  induction log with
  | quiet later same => simp [same]
  | call later found performed continues ih =>
      rw [ih, performed.closed_after, found, List.any_cons, Bool.or_assoc]

theorem spoilt_eq (log : StoreLog start calls finish) :
    finish.memory.spoilt = (start.memory.spoilt || calls.any StoreCall.isAbandoned) := by
  induction log with
  | quiet later same => simp [same]
  | call later found performed continues ih =>
      rw [ih, performed.spoilt_after, found, List.any_cons, Bool.or_assoc]

/-- What is in the way of the entries of a store that began in order is told by the calls. -/
theorem obstacle?_eq (log : StoreLog start calls finish) (unclosed : start.memory.closed = false)
    (whole : start.memory.spoilt = false) : finish.memory.obstacle? = StoreCall.fault? calls := by
  simp only [Memory.obstacle?, log.closed_eq, log.spoilt_eq, unclosed, whole, Bool.false_or,
    StoreCall.fault?]

/-- Where something is in the way of the entries, something will always be, and they stay as they
are. -/
theorem entries_of_obstacle {fault : Fault} (log : StoreLog start calls finish)
    (obstacle : start.memory.obstacle? = some fault) :
    (∃ later, finish.memory.obstacle? = some later) ∧
      finish.memory.counters = start.memory.counters ∧
      finish.memory.blocks = start.memory.blocks := by
  induction log generalizing fault with
  | quiet later same =>
      rw [same]
      exact ⟨⟨fault, obstacle⟩, rfl, rfl⟩
  | @call start finish first rest later found performed continues ih =>
      rw [← found] at obstacle
      have after := performed.after_eq
      -- Closing is all that can still change the store, and it changes no entry.
      by_cases close : first.operation = .close
      · have shut : first.after = { first.before with closed := true } := by
          rw [after, close]
          rfl
        have closed : first.after.obstacle? = some .storeClosed := by
          rw [shut]
          rfl
        rcases ih closed with ⟨remains, counters, blocks⟩
        rw [shut] at counters blocks
        rw [counters, blocks, found]
        exact ⟨remains, rfl, rfl⟩
      · have same : first.after = first.before := by
          rw [after, Memory.perform_of_obstacle obstacle close]
        rw [← same] at obstacle
        rcases ih obstacle with ⟨remains, counters, blocks⟩
        rw [counters, blocks, same, found]
        exact ⟨remains, rfl, rfl⟩

end StoreLog

/-! ## Traffic that comes to a standstill -/

namespace Traffic

variable {window : Duration} {traffic : Traffic} {moves : List Move} {move : Move} {number : Nat}
  {fault : Fault}

theorem obstacle?_run (moves : List Move) :
    ((fresh window).run moves).memory.obstacle? =
      StoreCall.fault? ((fresh window).history moves) :=
  ((fresh window).log_history moves).obstacle?_eq rfl rfl

theorem obstacle?_later (failed : StoreCall.fault? ((fresh window).history moves) = some fault)
    (more : List Move) :
    (((fresh window).run moves).run more).memory.obstacle? =
      some (if (((fresh window).run moves).history more).any StoreCall.closes then .storeClosed
        else fault) := by
  rw [← run_append, obstacle?_run, history_append]
  exact StoreCall.fault?_append failed _

theorem spoilt_later (abandoned : ((fresh window).history moves).any StoreCall.isAbandoned = true)
    (more : List Move) : (((fresh window).run moves).run more).memory.spoilt = true := by
  have spoilt : ((fresh window).run moves).memory.spoilt = true :=
    ((fresh window).log_history moves).spoilt_eq.trans abandoned
  have later := (((fresh window).run moves).log_history more).spoilt_eq
  simp only [moment, spoilt, Bool.true_or] at later
  exact later

/-- How a call fails is settled by the calls before it. -/
theorem failure?_of_history {before after : List StoreCall} {call : StoreCall}
    (made : (fresh window).history moves = before ++ call :: after) :
    call.failure? = call.expectedFailure? window before := by
  have log := (fresh window).log_history moves
  rw [made] at log
  have performed := log.performed (List.mem_append_right before List.mem_cons_self)
  have sameWindow : call.before.window = window :=
    log.window_before (List.mem_append_right before List.mem_cons_self)
  have obstacle : call.before.obstacle? = StoreCall.fault? before := log.up_to.obstacle?_eq rfl rfl
  rw [performed.failure?_eq, obstacle, sameWindow, StoreCall.expectedFailure?]

/-- A check that ends without a decision returns none, as little as while it was waiting. -/
theorem returned?_place {check : Check} {phase : Check.Phase} {completion : Completion Decision}
    {other : Nat} (waiting : traffic.pending? other = some (check, phase))
    (undecided : ∀ decision, completion ≠ .answered (.ok decision)) :
    (traffic.place other check (.finished completion)).returned? number =
      traffic.returned? number := by
  have held := pending?_eq_some_iff.mp waiting
  have within := (List.getElem?_eq_some_iff.mp held).1
  by_cases same : number = other
  · subst same
    simp only [returned?, place, List.getElem?_set_self within, held]
    split
    · next ended =>
        cases ended
        exact absurd rfl (undecided _)
    · rfl
  · simp only [returned?, place, List.getElem?_set_ne (Ne.symm same)]

/-- While the store refuses everything, no check returns a decision. -/
theorem returned?_step (obstacle : traffic.memory.obstacle? = some fault) :
    (traffic.step move).returned? number = traffic.returned? number := by
  -- A check that moves hears the fault or is given up, and either way it is finished.
  cases move with
  | pass span => rfl
  | arrive service address token =>
      by_cases arrived : number < traffic.flights.length
      · simp only [step, returned?, List.getElem?_append_left arrived]
      · have late := Nat.le_of_not_lt arrived
        simp only [step, returned?, List.getElem?_append_right late, List.getElem?_eq_none late]
        cases number - traffic.flights.length <;> rfl
  | proceed other =>
      simp only [step]
      cases waiting : traffic.pending? other with
      | none => rfl
      | some held =>
          rcases held with ⟨check, phase⟩
          simp only [perform,
            Memory.perform_of_obstacle obstacle (check.operation_ne_close phase)]
          exact returned?_place waiting (by simp)
  | strand other =>
      simp only [step]
      cases waiting : traffic.pending? other with
      | none => rfl
      | some held =>
          simp only [perform,
            Memory.perform_of_obstacle obstacle (held.1.operation_ne_close held.2)]
          exact returned?_place waiting (by simp)
  | cancel other =>
      simp only [step]
      cases waiting : traffic.pending? other with
      | none => rfl
      | some held => exact returned?_place waiting (by simp)
  | direct operation => rfl

theorem returned?_run (obstacle : traffic.memory.obstacle? = some fault) :
    (traffic.run moves).returned? number = traffic.returned? number := by
  induction moves generalizing traffic fault with
  | nil => rfl
  | cons move rest ih =>
      rcases ((traffic.log_step move).entries_of_obstacle obstacle).1 with ⟨next, remains⟩
      rw [run_cons, ih remains, returned?_step obstacle]

/-- The store refuses everything with a fault: whoever asks a service hears it, and so does a check
that is under way with its next call. The entries stay as they are, and whatever happens no check
returns a decision that did not return it before. -/
structure Standstill (fault : Fault) (traffic : Traffic) : Prop where
  served : ∀ (service : Service) request timeline, timeline.contents = traffic.memory →
    ∃ after, service.serve Memory.store timeline request = (request.refused fault, after) ∧
      (request ≠ .call .close → after.contents = traffic.memory)
  underway : ∀ (check : Check) deadline phase timeline, timeline.contents = traffic.memory →
    ∃ after, check.runFrom Memory.store deadline phase timeline =
      (.answered (.error (.reported fault)), after) ∧ after.contents = traffic.memory
  proceeds : ∀ number check phase, traffic.pending? number = some (check, phase) →
    (traffic.step (.proceed number)).flights[number]? =
      some ⟨check, .finished (.answered (.error (.reported fault)))⟩
  entries : ∀ more, (traffic.run more).memory.counters = traffic.memory.counters ∧
    (traffic.run more).memory.blocks = traffic.memory.blocks
  undecided : ∀ more number, (traffic.run more).returned? number = traffic.returned? number

theorem standstill_of_obstacle (obstacle : traffic.memory.obstacle? = some fault) :
    traffic.Standstill fault where
  served := by
    intro service request timeline contents
    rw [← contents] at obstacle ⊢
    exact (Memory.refuses_of_obstacle obstacle).serve service request
  underway := by
    intro check deadline phase timeline contents
    rw [← contents] at obstacle ⊢
    exact (Memory.refuses_of_obstacle obstacle).runFrom check deadline phase
  proceeds := by
    intro number check phase waiting
    have within := (List.getElem?_eq_some_iff.mp (pending?_eq_some_iff.mp waiting)).1
    simp only [step, waiting,
      Memory.perform_of_obstacle obstacle (check.operation_ne_close phase)]
    exact List.getElem?_set_self within
  entries := fun more => ((traffic.log_history more).entries_of_obstacle obstacle).2
  undecided := fun more number => returned?_run obstacle

end Traffic

end AdmissionControl

import AdmissionControl.Admission.Service

/-!
# The course of a check at any store

What an admission check can come to at a store of which nothing is known: each of its calls may be
answered in any way, at once, after a wait, or never. `Check.Course` lists the ways a check can
take, each with the calls that were made and with what became of them, and `Check.run_iff` says that
there are no others. A service adds nothing but what it makes of a check without an answer
(`Service.decideOn_iff`).

An answer counts only if it comes by the deadline, so whatever a check is told, it is told in time
(`Timeline.now_le_of_call`).
-/

namespace AdmissionControl

variable {Contents : Type}

/-- What a failed call leaves to its caller; a call that succeeded has not failed. -/
def Reception.failed? {α β : Type} : Reception α → Option (Reception β)
  | .answered (.ok _) => none
  | .answered (.error failure) => some (.answered (.error failure))
  | .expired => some .expired
  | .unanswered => some .unanswered

theorem Reception.failed?_or_ok {α : Type} (reception : Reception α) (β : Type) :
    (∃ failing : Reception β, reception.failed? = some failing) ∨
      ∃ result, reception = .answered (.ok result) := by
  cases reception with
  | answered answer =>
      cases answer with
      | ok result => exact .inr ⟨result, rfl⟩
      | error failure => exact .inl ⟨_, rfl⟩
  | expired => exact .inl ⟨_, rfl⟩
  | unanswered => exact .inl ⟨_, rfl⟩

theorem Reception.failed?_ne_ok {α β : Type} {reception : Reception α} {result : β} :
    reception.failed? ≠ some (.answered (.ok result)) := by
  cases reception with
  | answered answer => cases answer <;> simp [failed?]
  | expired => simp [failed?]
  | unanswered => simp [failed?]

namespace Timeline

variable {timeline after : Timeline Contents} {store : CounterStore Contents}
  {deadline : Option Instant} {operation : Operation}

/-- An answer that counts has come by the deadline. -/
theorem now_le_of_call {answer : Answer operation.Result}
    (begun : ∀ last ∈ deadline, timeline.now ≤ last)
    (answered : timeline.call store deadline operation = (.answered answer, after)) :
    ∀ last ∈ deadline, after.now ≤ last := by
  rintro last limited
  cases limited
  have inTime := begun last rfl
  simp only [call] at answered
  split at answered
  · cases answered
    exact inTime
  · simp_all
  · next limited =>
      cases limited
      split at answered
      · next ready =>
          cases answered
          exact ready
      · cases answered
  · cases answered
  · cases answered

theorem call_ne_expired : timeline.call store none operation ≠ (.expired, after) := by
  intro expired
  simp only [call] at expired
  split at expired <;> simp_all

end Timeline

namespace Check

/-- The ways that a check can take, with what it comes to and the course of events after it. -/
inductive Course (check : Check) (store : CounterStore Contents) (deadline : Option Instant)
    (timeline : Timeline Contents) : Reception Decision → Timeline Contents → Prop
  | blocked {looked : Timeline Contents}
      (lookup : timeline.call store deadline (.isBlocked check.identity) =
        (.answered (.ok true), looked)) :
      Course check store deadline timeline
        (.answered (.ok (.ofBlocked check.identity check.limit))) looked
  | within {looked counted : Timeline Contents} {count : UInt64}
      (lookup : timeline.call store deadline (.isBlocked check.identity) =
        (.answered (.ok false), looked))
      (raise : looked.call store deadline (.increment check.identity) =
        (.answered (.ok count), counted))
      (within : count ≤ check.limit) :
      Course check store deadline timeline
        (.answered (.ok (.ofCount check.identity check.limit count))) counted
  | beyond {looked counted set : Timeline Contents} {count : UInt64}
      (lookup : timeline.call store deadline (.isBlocked check.identity) =
        (.answered (.ok false), looked))
      (raise : looked.call store deadline (.increment check.identity) =
        (.answered (.ok count), counted))
      (beyond : ¬count ≤ check.limit)
      (block : (counted.logAll (check.announcement (.block count))).call store deadline
        (.block check.identity check.blockSpan) = (.answered (.ok ()), set)) :
      Course check store deadline timeline
        (.answered (.ok (.ofCount check.identity check.limit count))) set
  | lookupFailed {reception : Reception Bool} {failing : Reception Decision}
      {looked : Timeline Contents}
      (lookup : timeline.call store deadline (.isBlocked check.identity) = (reception, looked))
      (failed : reception.failed? = some failing) :
      Course check store deadline timeline failing looked
  | raiseFailed {reception : Reception UInt64} {failing : Reception Decision}
      {looked counted : Timeline Contents}
      (lookup : timeline.call store deadline (.isBlocked check.identity) =
        (.answered (.ok false), looked))
      (raise : looked.call store deadline (.increment check.identity) = (reception, counted))
      (failed : reception.failed? = some failing) :
      Course check store deadline timeline failing counted
  | blockFailed {reception : Reception Unit} {failing : Reception Decision}
      {looked counted set : Timeline Contents} {count : UInt64}
      (lookup : timeline.call store deadline (.isBlocked check.identity) =
        (.answered (.ok false), looked))
      (raise : looked.call store deadline (.increment check.identity) =
        (.answered (.ok count), counted))
      (beyond : ¬count ≤ check.limit)
      (block : (counted.logAll (check.announcement (.block count))).call store deadline
        (.block check.identity check.blockSpan) = (reception, set))
      (failed : reception.failed? = some failing) :
      Course check store deadline timeline failing set

variable {check : Check} {store : CounterStore Contents} {deadline : Option Instant}
  {timeline after looked counted : Timeline Contents} {reception : Reception Decision}

theorem operation_ne_close (check : Check) (phase : Phase) : check.operation phase ≠ .close := by
  cases phase <;> exact nofun

theorem runFrom_of_failed (phase : Phase) {called : Reception (check.operation phase).Result}
    (call : timeline.call store deadline (check.operation phase) = (called, after))
    (failed : called.failed? = some reception) :
    check.runFrom store deadline phase timeline = (reception, after) := by
  rw [runFrom, call]
  cases called with
  | answered answer =>
      cases answer with
      | ok result => cases failed
      | error failure =>
          cases failed
          rfl
  | expired =>
      cases failed
      rfl
  | unanswered =>
      cases failed
      rfl

theorem runFrom_of_decided (phase : Phase) {result : (check.operation phase).Result}
    {decision : Decision}
    (call : timeline.call store deadline (check.operation phase) = (.answered (.ok result), after))
    (progress : check.advance phase result = .decided decision) :
    check.runFrom store deadline phase timeline = (.answered (.ok decision), after) := by
  rw [runFrom, call]
  simp only [progress]

theorem runFrom_of_waiting (phase : Phase) {result : (check.operation phase).Result} {next : Phase}
    {later : next.callsLeft < phase.callsLeft}
    (call : timeline.call store deadline (check.operation phase) = (.answered (.ok result), after))
    (progress : check.advance phase result = .waiting next later) :
    check.runFrom store deadline phase timeline =
      check.runFrom store deadline next (after.logAll (check.announcement next)) := by
  rw [runFrom, call]
  simp only [progress]

/-- A check that finds no block goes on to count. -/
theorem run_of_free
    (lookup : timeline.call store deadline (.isBlocked check.identity) =
      (.answered (.ok false), looked)) :
    check.run store deadline timeline = check.runFrom store deadline .count looked := by
  rw [run, runFrom_of_waiting .lookup lookup rfl]
  simp [announcement, Timeline.logAll]

/-- A check that counts beyond its limit goes on to set the block. -/
theorem run_of_beyond {count : UInt64}
    (lookup : timeline.call store deadline (.isBlocked check.identity) =
      (.answered (.ok false), looked))
    (raise : looked.call store deadline (.increment check.identity) =
      (.answered (.ok count), counted))
    (beyond : ¬count ≤ check.limit) :
    check.run store deadline timeline =
      check.runFrom store deadline (.block count)
        (counted.logAll (check.announcement (.block count))) := by
  rw [run_of_free lookup]
  exact runFrom_of_waiting .count raise (if_neg beyond)

/-- A check takes one of its ways and comes to what that way leads to. -/
theorem run_of_course (course : check.Course store deadline timeline reception after) :
    check.run store deadline timeline = (reception, after) := by
  cases course with
  | blocked lookup => exact runFrom_of_decided .lookup lookup rfl
  | within lookup raise within =>
      rw [run_of_free lookup]
      exact runFrom_of_decided .count raise (if_pos within)
  | beyond lookup raise beyond block =>
      rw [run_of_beyond lookup raise beyond]
      exact runFrom_of_decided (.block _) block rfl
  | lookupFailed lookup failed => exact runFrom_of_failed .lookup lookup failed
  | raiseFailed lookup raise failed =>
      rw [run_of_free lookup]
      exact runFrom_of_failed .count raise failed
  | blockFailed lookup raise beyond block failed =>
      rw [run_of_beyond lookup raise beyond]
      exact runFrom_of_failed (.block _) block failed

theorem exists_course (check : Check) (store : CounterStore Contents) (deadline : Option Instant)
    (timeline : Timeline Contents) :
    ∃ reception after, check.Course store deadline timeline reception after := by
  rcases lookup : timeline.call store deadline (.isBlocked check.identity) with ⟨found, looked⟩
  rcases found.failed?_or_ok Decision with ⟨failing, failed⟩ | ⟨blocked, rfl⟩
  · exact ⟨_, _, .lookupFailed lookup failed⟩
  cases blocked with
  | true => exact ⟨_, _, .blocked lookup⟩
  | false =>
      rcases raise : looked.call store deadline (.increment check.identity) with ⟨raised, counted⟩
      rcases raised.failed?_or_ok Decision with ⟨failing, failed⟩ | ⟨count, rfl⟩
      · exact ⟨_, _, .raiseFailed lookup raise failed⟩
      by_cases within : count ≤ check.limit
      · exact ⟨_, _, .within lookup raise within⟩
      rcases block : (counted.logAll (check.announcement (.block count))).call store deadline
          (.block check.identity check.blockSpan) with ⟨blocked, set⟩
      rcases blocked.failed?_or_ok Decision with ⟨failing, failed⟩ | ⟨done, rfl⟩
      · exact ⟨_, _, .blockFailed lookup raise within block failed⟩
      · exact ⟨_, _, .beyond lookup raise within block⟩

/-- Whatever happens at the store, a check comes to the end of exactly one of its ways. -/
theorem run_iff : check.run store deadline timeline = (reception, after) ↔
    check.Course store deadline timeline reception after := by
  constructor
  · rcases check.exists_course store deadline timeline with ⟨_, _, course⟩
    rw [run_of_course course]
    rintro ⟨⟩
    exact course
  · exact run_of_course

namespace Course

variable {decision : Decision}

/-- A client is let through only after its identity was found free and counted within its limit. -/
theorem of_allowed (course : check.Course store deadline timeline (.answered (.ok decision)) after)
    (allowed : decision.allowed = true) :
    ∃ looked,
      timeline.call store deadline (.isBlocked check.identity) = (.answered (.ok false), looked) ∧
      looked.call store deadline (.increment check.identity) =
        (.answered (.ok decision.currentCount), after) ∧
      decision.currentCount ≤ check.limit := by
  cases course with
  | blocked lookup => cases allowed
  | within lookup raise within => exact ⟨_, lookup, raise, within⟩
  | beyond lookup raise beyond block => exact absurd (of_decide_eq_true allowed) beyond
  | lookupFailed lookup failed => exact absurd failed Reception.failed?_ne_ok
  | raiseFailed lookup raise failed => exact absurd failed Reception.failed?_ne_ok
  | blockFailed lookup raise beyond block failed => exact absurd failed Reception.failed?_ne_ok

/-- A client is turned away only if its identity was found blocked, or counted beyond its limit and
then blocked. -/
theorem of_denied (course : check.Course store deadline timeline (.answered (.ok decision)) after)
    (denied : decision.allowed = false) :
    timeline.call store deadline (.isBlocked check.identity) = (.answered (.ok true), after) ∨
      ∃ looked counted count,
        timeline.call store deadline (.isBlocked check.identity) =
          (.answered (.ok false), looked) ∧
        looked.call store deadline (.increment check.identity) =
          (.answered (.ok count), counted) ∧
        ¬count ≤ check.limit ∧
        (counted.logAll (check.announcement (.block count))).call store deadline
          (.block check.identity check.blockSpan) = (.answered (.ok ()), after) := by
  cases course with
  | blocked lookup => exact .inl lookup
  | within lookup raise within => exact absurd within (of_decide_eq_false denied)
  | beyond lookup raise beyond block => exact .inr ⟨_, _, _, lookup, raise, beyond, block⟩
  | lookupFailed lookup failed => exact absurd failed Reception.failed?_ne_ok
  | raiseFailed lookup raise failed => exact absurd failed Reception.failed?_ne_ok
  | blockFailed lookup raise beyond block failed => exact absurd failed Reception.failed?_ne_ok

/-- A decision is on the identity that was checked, under its limit. -/
theorem subject (course : check.Course store deadline timeline (.answered (.ok decision)) after) :
    decision.identity = check.identity ∧ decision.limit = check.limit := by
  cases course with
  | blocked lookup => exact ⟨rfl, rfl⟩
  | within lookup raise within => exact ⟨rfl, rfl⟩
  | beyond lookup raise beyond block => exact ⟨rfl, rfl⟩
  | lookupFailed lookup failed => exact absurd failed Reception.failed?_ne_ok
  | raiseFailed lookup raise failed => exact absurd failed Reception.failed?_ne_ok
  | blockFailed lookup raise beyond block failed => exact absurd failed Reception.failed?_ne_ok

end Course

end Check

namespace Service

variable {service : Service} {store : CounterStore Contents} {address token : String}
  {timeline after : Timeline Contents} {completion : Completion Decision}

/-- When a check that begins at a point in time has to be finished. -/
def deadline (service : Service) (start : Instant) : Option Instant :=
  service.timeout.map fun limit => start.alarm limit

/-- What a service makes of a check: one that is not answered by the deadline is answered with a
timeout, and one without a deadline may never be answered. -/
def conclude (service : Service) : Reception Decision → Completion Decision
  | .answered answer => .answered answer
  | .expired | .unanswered =>
      match service.timeout with
      | none => .unanswered
      | some limit => .answered (.error (.reported (.timeout limit)))

theorem decideOn_eq :
    service.decideOn store address token timeline =
      (service.conclude ((service.check address token).run store (service.deadline timeline.now)
          timeline).1,
        ((service.check address token).run store (service.deadline timeline.now) timeline).2) := by
  unfold decideOn conclude deadline
  cases service.timeout with
  | none =>
      simp only [Option.map_none]
      rcases (service.check address token).run store none timeline with ⟨reception, after⟩
      cases reception <;> rfl
  | some limit =>
      simp only [Option.map_some]
      rcases (service.check address token).run store (some (timeline.now.alarm limit)) timeline
        with ⟨reception, after⟩
      cases reception <;> rfl

theorem decideOn_iff :
    service.decideOn store address token timeline = (completion, after) ↔
      ∃ reception, (service.check address token).Course store (service.deadline timeline.now)
        timeline reception after ∧ completion = service.conclude reception := by
  rw [decideOn_eq]
  constructor
  · rintro ⟨⟩
    exact ⟨_, Check.run_iff.mp rfl, rfl⟩
  · rintro ⟨reception, course, rfl⟩
    rw [Check.run_of_course course]

theorem conclude_eq_ok_iff {reception : Reception Decision} {decision : Decision} :
    service.conclude reception = .answered (.ok decision) ↔
      reception = .answered (.ok decision) := by
  cases reception with
  | answered answer => simp [conclude]
  | expired => cases limit : service.timeout <;> simp [conclude, limit]
  | unanswered => cases limit : service.timeout <;> simp [conclude, limit]

/-- A check that is not answered in time leaves a timeout, where there is a time limit. -/
theorem conclude_of_late {reception : Reception Decision}
    (late : ∀ answer, reception ≠ .answered answer) :
    (∃ fault, service.conclude reception = .answered (.error (.reported fault))) ∨
      service.conclude reception = .unanswered ∧ service.timeout = none := by
  cases reception with
  | answered answer => exact absurd rfl (late answer)
  | expired => cases limit : service.timeout <;> simp [conclude, limit]
  | unanswered => cases limit : service.timeout <;> simp [conclude, limit]

/-- A service decides as its check does. -/
theorem decideOn_ok_iff {decision : Decision} :
    service.decideOn store address token timeline = (.answered (.ok decision), after) ↔
      (service.check address token).Course store (service.deadline timeline.now) timeline
        (.answered (.ok decision)) after := by
  rw [decideOn_iff]
  constructor
  · rintro ⟨reception, course, concluded⟩
    rwa [conclude_eq_ok_iff.mp concluded.symm] at course
  · intro course
    exact ⟨_, course, rfl⟩

/-- A service lets a client through exactly if it is found free and counted within its limit. -/
theorem allowed_iff :
    (∃ decision, (service.decideOn store address token timeline).1 = .answered (.ok decision) ∧
        decision.allowed = true) ↔
      ∃ looked counted count,
        timeline.call store (service.deadline timeline.now)
          (.isBlocked (service.check address token).identity) = (.answered (.ok false), looked) ∧
        looked.call store (service.deadline timeline.now)
          (.increment (service.check address token).identity) = (.answered (.ok count), counted) ∧
        count ≤ (service.check address token).limit := by
  constructor
  · rintro ⟨decision, decided, allowed⟩
    have course := decideOn_ok_iff.mp (Prod.ext decided rfl)
    rcases course.of_allowed allowed with ⟨looked, lookup, raise, within⟩
    exact ⟨looked, _, _, lookup, raise, within⟩
  · rintro ⟨looked, counted, count, lookup, raise, within⟩
    have decided := decideOn_ok_iff.mpr (.within lookup raise within)
    exact ⟨_, congrArg Prod.fst decided, decide_eq_true within⟩

/-- A service turns a client away exactly if it is found blocked, or counted beyond its limit and
then blocked. -/
theorem denied_iff :
    (∃ decision, (service.decideOn store address token timeline).1 = .answered (.ok decision) ∧
        decision.allowed = false) ↔
      (∃ looked, timeline.call store (service.deadline timeline.now)
        (.isBlocked (service.check address token).identity) = (.answered (.ok true), looked)) ∨
      ∃ looked counted count set,
        timeline.call store (service.deadline timeline.now)
          (.isBlocked (service.check address token).identity) = (.answered (.ok false), looked) ∧
        looked.call store (service.deadline timeline.now)
          (.increment (service.check address token).identity) = (.answered (.ok count), counted) ∧
        ¬count ≤ (service.check address token).limit ∧
        (counted.logAll ((service.check address token).announcement (.block count))).call store
          (service.deadline timeline.now)
          (.block (service.check address token).identity (service.check address token).blockSpan) =
            (.answered (.ok ()), set) := by
  constructor
  · rintro ⟨decision, decided, denied⟩
    have course := decideOn_ok_iff.mp (Prod.ext decided rfl)
    rcases course.of_denied denied with
      lookup | ⟨looked, counted, count, lookup, raise, beyond, block⟩
    · exact .inl ⟨_, lookup⟩
    · exact .inr ⟨looked, counted, count, _, lookup, raise, beyond, block⟩
  · rintro (⟨looked, lookup⟩ | ⟨looked, counted, count, set, lookup, raise, beyond, block⟩)
    · exact ⟨_, congrArg Prod.fst (decideOn_ok_iff.mpr (.blocked lookup)), rfl⟩
    · have decided := decideOn_ok_iff.mpr (.beyond lookup raise beyond block)
      exact ⟨_, congrArg Prod.fst decided, decide_eq_false beyond⟩

/-- The fault of a call that is reported, or not answered in time, is one that the service reports
in the place of a decision. -/
theorem fault_of_failed {operation : Operation} {reception : Reception operation.Result}
    {start : Instant}
    (call : timeline.call store (service.deadline start) operation = (reception, after))
    (reported : reception = .expired ∨ ∃ fault, reception = .answered (.error (.reported fault))) :
    ∃ failing : Reception Decision, reception.failed? = some failing ∧
      ∃ fault, service.conclude failing = .answered (.error (.reported fault)) := by
  rcases reported with rfl | ⟨fault, rfl⟩
  · refine ⟨.expired, rfl, ?_⟩
    cases limit : service.timeout with
    | none =>
        rw [deadline, limit, Option.map_none] at call
        exact absurd call Timeline.call_ne_expired
    | some span => exact ⟨.timeout span, by simp only [conclude, limit]⟩
  · exact ⟨_, rfl, fault, rfl⟩

theorem le_deadline : ∀ last ∈ service.deadline timeline.now, timeline.now ≤ last := by
  rintro last limited
  rcases Option.map_eq_some_iff.mp limited with ⟨limit, _, rfl⟩
  exact timeline.now.le_alarm limit

end Service

end AdmissionControl

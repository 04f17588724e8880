import AdmissionControl.Proofs.Admission.Traffic
import Mathlib.Data.List.Induction

/-!
# Transcripts of admission checks

The calls of one check, picked out of the history of any traffic, follow the phases of the check in
order, whatever the other checks do in between: its state is determined by its own calls and their
answers (`Traffic.transcribed`). The shapes that a transcript can have say which calls lie behind a
decision, and that a check whose lookup found a block never calls the store again.
-/

namespace AdmissionControl

/-- The calls that a check made. -/
def callsOf (number : Nat) (calls : List StoreCall) : List StoreCall :=
  calls.filter fun call => call.caller = some number

theorem mem_callsOf {number : Nat} {calls : List StoreCall} {call : StoreCall} :
    call ∈ callsOf number calls ↔ call ∈ calls ∧ call.caller = some number := by
  simp [callsOf]

theorem callsOf_append (number : Nat) (calls more : List StoreCall) :
    callsOf number (calls ++ more) = callsOf number calls ++ callsOf number more :=
  List.filter_append ..

/-- The calls that a check with a number has made when it comes to a state. It may have been given
up during a call only if `stranded`. -/
inductive Transcript (number : Nat) (check : Check) (stranded : Prop) :
    List StoreCall → FlightState → Prop
  | arrived : Transcript number check stranded [] (.waiting .lookup)
  | answered {calls : List StoreCall} {phase : Check.Phase} {time : Instant}
      {answer : Answer (check.operation phase).Result} {before after : Memory}
      (waiting : Transcript number check stranded calls (.waiting phase)) :
      Transcript number check stranded
        (calls ++ [⟨time, some number, check.operation phase, answer, before, after⟩])
        (check.settle phase answer)
  | stranded {calls : List StoreCall} {phase : Check.Phase} {time : Instant}
      {answer : Answer (check.operation phase).Result} {before after : Memory}
      (waiting : Transcript number check stranded calls (.waiting phase)) (given : stranded) :
      Transcript number check stranded
        (calls ++ [⟨time, some number, check.operation phase, answer, before, after⟩])
        (.finished .unanswered)
  | cancelled {calls : List StoreCall} {phase : Check.Phase}
      (waiting : Transcript number check stranded calls (.waiting phase)) :
      Transcript number check stranded calls (.finished .unanswered)

namespace Transcript

variable {number : Nat} {check : Check} {stranded weaker : Prop} {calls : List StoreCall}
  {state : FlightState}

theorem mono (transcript : Transcript number check stranded calls state)
    (weaken : stranded → weaker) : Transcript number check weaker calls state := by
  induction transcript with
  | arrived => exact .arrived
  | answered waiting ih => exact .answered ih
  | stranded waiting given ih => exact .stranded ih (weaken given)
  | cancelled waiting ih => exact .cancelled ih

/-! ## The shapes of a transcript -/

theorem of_waiting_lookup
    (transcript : Transcript number check stranded calls (.waiting .lookup)) : calls = [] := by
  generalize reached : FlightState.waiting .lookup = state at transcript
  cases transcript with
  | arrived => rfl
  | @answered _ phase _ answer _ _ waiting =>
      have cause := check.settled phase answer
      rw [← reached] at cause
      cases cause
  | stranded waiting given => cases reached
  | cancelled waiting => cases reached

theorem of_waiting_count (transcript : Transcript number check stranded calls (.waiting .count)) :
    ∃ lookup, calls = [lookup] ∧ lookup.found? check.identity = some false := by
  generalize reached : FlightState.waiting .count = state at transcript
  cases transcript with
  | arrived => cases reached
  | @answered earlier phase time answer before after waiting =>
      have cause := check.settled phase answer
      rw [← reached] at cause
      cases cause with
      | free =>
          rw [waiting.of_waiting_lookup]
          exact ⟨_, rfl, by simp [StoreCall.found?]⟩
  | stranded waiting given => cases reached
  | cancelled waiting => cases reached

/-- A check waits for its block after a lookup that found none and a count beyond the limit. -/
theorem of_waiting_block {count : UInt64}
    (transcript : Transcript number check stranded calls (.waiting (.block count))) :
    ∃ lookup raise, calls = [lookup, raise] ∧ lookup.found? check.identity = some false ∧
      raise.countFor? check.identity = some count ∧ ¬count ≤ check.limit := by
  generalize reached : FlightState.waiting (.block count) = state at transcript
  cases transcript with
  | arrived => cases reached
  | @answered earlier phase time answer before after waiting =>
      have cause := check.settled phase answer
      rw [← reached] at cause
      cases cause with
      | beyond beyond =>
          rcases waiting.of_waiting_count with ⟨lookup, rfl, free⟩
          exact ⟨lookup, _, rfl, free, by simp [StoreCall.countFor?], beyond⟩
  | stranded waiting given => cases reached
  | cancelled waiting => cases reached

/-- The calls behind a decision: a lookup that found a block; or one that found none, and a count
within the limit; or one that found none, a count beyond the limit and the block after it. -/
theorem of_decided {decision : Decision}
    (transcript : Transcript number check stranded calls
      (.finished (.answered (.ok decision)))) :
    (∃ lookup, calls = [lookup] ∧ lookup.found? check.identity = some true ∧
        decision = .ofBlocked check.identity check.limit) ∨
      ∃ lookup raise others count, calls = lookup :: raise :: others ∧
        lookup.found? check.identity = some false ∧
        raise.countFor? check.identity = some count ∧
        (∀ other ∈ others, ¬count ≤ check.limit ∧
          other.operation = .block check.identity check.blockSpan) ∧
        decision = .ofCount check.identity check.limit count := by
  generalize reached : FlightState.finished (.answered (.ok decision)) = state at transcript
  cases transcript with
  | arrived => cases reached
  | @answered earlier phase time answer before after waiting =>
      have cause := check.settled phase answer
      rw [← reached] at cause
      cases cause with
      | blocked =>
          left
          rw [waiting.of_waiting_lookup]
          exact ⟨_, rfl, by simp [StoreCall.found?], rfl⟩
      | within within =>
          right
          rcases waiting.of_waiting_count with ⟨lookup, rfl, free⟩
          exact ⟨lookup, _, [], _, rfl, free, by simp [StoreCall.countFor?], by simp, rfl⟩
      | set count =>
          right
          rcases waiting.of_waiting_block with ⟨lookup, raise, rfl, free, counted, beyond⟩
          exact ⟨lookup, raise, _, count, rfl, free, counted, by simp [beyond], rfl⟩
  | stranded waiting given => cases reached
  | cancelled waiting => cases reached

theorem operation_of_mem (transcript : Transcript number check stranded calls state)
    {call : StoreCall} (made : call ∈ calls) :
    ∃ phase, call.operation = check.operation phase := by
  induction transcript with
  | arrived => cases made
  | @answered earlier phase time answer before after waiting ih =>
      rcases List.mem_append.mp made with old | new
      · exact ih old
      · rw [List.mem_singleton.mp new]
        exact ⟨phase, rfl⟩
  | @stranded earlier phase time answer before after waiting given ih =>
      rcases List.mem_append.mp made with old | new
      · exact ih old
      · rw [List.mem_singleton.mp new]
        exact ⟨phase, rfl⟩
  | cancelled waiting ih => exact ih made

/-- A check blocks its own identity only, and only after a count beyond its limit. -/
theorem excess_of_block (transcript : Transcript number check stranded calls state)
    {call : StoreCall} {subject : Identity} {span : Duration} (made : call ∈ calls)
    (blocks : call.operation = .block subject span) :
    subject = check.identity ∧ span = check.blockSpan ∧
      ∃ raise ∈ calls, ∃ count, raise.countFor? check.identity = some count ∧
        ¬count ≤ check.limit := by
  have newest {earlier : List StoreCall} {phase : Check.Phase} {time : Instant}
      {answer : Answer (check.operation phase).Result} {before after : Memory}
      (waiting : Transcript number check stranded earlier (.waiting phase))
      (same : call = ⟨time, some number, check.operation phase, answer, before, after⟩) :
      subject = check.identity ∧ span = check.blockSpan ∧
        ∃ raise ∈ earlier, ∃ count, raise.countFor? check.identity = some count ∧
          ¬count ≤ check.limit := by
    subst same
    cases phase with
    | lookup => cases blocks
    | count => cases blocks
    | block count =>
        cases blocks
        rcases waiting.of_waiting_block with ⟨lookup, raise, rfl, _, counted, beyond⟩
        exact ⟨rfl, rfl, raise, by simp, count, counted, beyond⟩
  have grown {earlier : List StoreCall} {last : StoreCall}
      (known : subject = check.identity ∧ span = check.blockSpan ∧
        ∃ raise ∈ earlier, ∃ count, raise.countFor? check.identity = some count ∧
          ¬count ≤ check.limit) :
      subject = check.identity ∧ span = check.blockSpan ∧
        ∃ raise ∈ earlier ++ [last], ∃ count, raise.countFor? check.identity = some count ∧
          ¬count ≤ check.limit := by
    rcases known with ⟨same, length, raise, recorded, excess⟩
    exact ⟨same, length, raise, List.mem_append_left _ recorded, excess⟩
  induction transcript with
  | arrived => cases made
  | answered waiting ih =>
      rcases List.mem_append.mp made with old | new
      · exact grown (ih old)
      · exact grown (newest waiting (List.mem_singleton.mp new))
  | stranded waiting given ih =>
      rcases List.mem_append.mp made with old | new
      · exact grown (ih old)
      · exact grown (newest waiting (List.mem_singleton.mp new))
  | cancelled waiting ih => exact ih made

theorem free_of_waiting {phase : Check.Phase}
    (transcript : Transcript number check stranded calls (.waiting phase)) {call : StoreCall}
    (made : call ∈ calls) : call.found? check.identity ≠ some true := by
  cases phase with
  | lookup =>
      rw [transcript.of_waiting_lookup] at made
      cases made
  | count =>
      rcases transcript.of_waiting_count with ⟨lookup, rfl, free⟩
      rw [List.mem_singleton.mp made, free]
      simp
  | block count =>
      rcases transcript.of_waiting_block with ⟨lookup, raise, rfl, free, counted, _⟩
      simp only [List.mem_cons, List.not_mem_nil, or_false] at made
      rcases made with rfl | rfl
      · simp [free]
      · simp [StoreCall.found?_of_countFor? counted]

/-- A lookup that finds a block is the only call of its check, and the check denies its client
unless it was given up during the lookup. -/
theorem denied_of_found (transcript : Transcript number check stranded calls state)
    {lookup : StoreCall} (made : lookup ∈ calls)
    (found : lookup.found? check.identity = some true) :
    calls = [lookup] ∧
      (state = .finished (.answered (.ok (.ofBlocked check.identity check.limit))) ∨
        stranded ∧ state = .finished .unanswered) := by
  cases transcript with
  | arrived => cases made
  | @answered earlier phase time answer before after waiting =>
      rcases List.mem_append.mp made with old | new
      · exact absurd found (waiting.free_of_waiting old)
      · have same := List.mem_singleton.mp new
        subst same
        cases phase with
        | lookup =>
            cases answer with
            | error failure => cases found
            | ok result =>
                cases result with
                | true => exact ⟨by simp [waiting.of_waiting_lookup], Or.inl rfl⟩
                | false => simp [StoreCall.found?] at found
        | count => cases found
        | block count => cases found
  | @stranded earlier phase time answer before after waiting given =>
      rcases List.mem_append.mp made with old | new
      · exact absurd found (waiting.free_of_waiting old)
      · have same := List.mem_singleton.mp new
        subst same
        cases phase with
        | lookup => exact ⟨by simp [waiting.of_waiting_lookup], Or.inr ⟨given, rfl⟩⟩
        | count => cases found
        | block count => cases found
  | cancelled waiting => exact absurd found (waiting.free_of_waiting made)

end Transcript

namespace Traffic

variable {traffic : Traffic} {window : Duration} {limits : Limits} {moves : List Move} {move : Move}
  {number : Nat}

/-- Every check is known by its transcript, and a number that no check has yet has no calls. -/
structure Transcribed (traffic : Traffic) (moves : List Move) (calls : List StoreCall) : Prop where
  transcript : ∀ number flight, traffic.flights[number]? = some flight →
    Transcript number flight.check (Move.strand number ∈ moves) (callsOf number calls) flight.state
  unborn : ∀ number, traffic.flights[number]? = none → callsOf number calls = []

/-- Where no check moves and no check calls the store, the transcripts stay as they are. -/
theorem Transcribed.unmoved {next : Traffic} {calls more : List StoreCall}
    (transcribed : Transcribed traffic moves calls) (same : next.flights = traffic.flights)
    (others : ∀ number, callsOf number more = []) :
    Transcribed next (moves ++ [move]) (calls ++ more) := by
  constructor
  · intro number flight held
    rw [same] at held
    rw [callsOf_append, others, List.append_nil]
    exact (transcribed.transcript number flight held).mono (List.mem_append_left _)
  · intro number absent
    rw [same] at absent
    rw [callsOf_append, others, List.append_nil]
    exact transcribed.unborn number absent

/-- Where one check moves on, the others keep their transcripts. -/
theorem Transcribed.placed {next : Traffic} {calls more : List StoreCall} {check : Check}
    {phase : Check.Phase} {state : FlightState} (transcribed : Transcribed traffic moves calls)
    (waiting : traffic.flights[number]? = some ⟨check, .waiting phase⟩)
    (moved : next.flights = traffic.flights.set number ⟨check, state⟩)
    (own : ∀ call ∈ more, call.caller = some number)
    (onward : Transcript number check (Move.strand number ∈ moves ++ [move])
      (callsOf number calls ++ more) state) :
    Transcribed next (moves ++ [move]) (calls ++ more) := by
  have ownCalls : callsOf number more = more := by
    apply List.filter_eq_self.mpr
    intro call made
    simpa using own call made
  have otherCalls : ∀ other, other ≠ number → callsOf other more = [] := by
    intro other differs
    apply List.filter_eq_nil_iff.mpr
    intro call made
    simp only [own call made, Option.some.injEq, decide_eq_true_eq]
    exact Ne.symm differs
  constructor
  · intro other flight held
    rw [moved] at held
    by_cases same : other = number
    · subst same
      have inRange := (List.getElem?_eq_some_iff.mp waiting).1
      rw [List.getElem?_set_self inRange] at held
      cases held
      rwa [callsOf_append, ownCalls]
    · rw [List.getElem?_set_ne (Ne.symm same)] at held
      rw [callsOf_append, otherCalls other same, List.append_nil]
      exact (transcribed.transcript other flight held).mono (List.mem_append_left _)
  · intro other absent
    have differs : other ≠ number := by
      rintro rfl
      have inRange := (List.getElem?_eq_some_iff.mp waiting).1
      simp [moved, inRange] at absent
    rw [moved, List.getElem?_set_ne (Ne.symm differs)] at absent
    rw [callsOf_append, otherCalls other differs, List.append_nil]
    exact transcribed.unborn other absent

/-- A check that arrives has made no calls yet. -/
theorem Transcribed.joined {next : Traffic} {calls : List StoreCall} {check : Check}
    (transcribed : Transcribed traffic moves calls)
    (moved : next.flights = traffic.flights ++ [⟨check, .waiting .lookup⟩]) :
    Transcribed next (moves ++ [move]) calls := by
  constructor
  · intro number flight held
    rw [moved, List.getElem?_append] at held
    split at held
    · exact (transcribed.transcript number flight held).mono (List.mem_append_left _)
    · next beyond =>
        have new := List.mem_of_getElem? held
        simp only [List.mem_singleton] at new
        subst new
        rw [transcribed.unborn number (List.getElem?_eq_none (by omega))]
        exact .arrived
  · intro number absent
    rw [moved] at absent
    apply transcribed.unborn
    simp only [List.getElem?_eq_none_iff, List.length_append, List.length_singleton] at absent ⊢
    omega

theorem Transcribed.step {calls : List StoreCall} (transcribed : Transcribed traffic moves calls)
    (move : Move) :
    Transcribed (traffic.step move) (moves ++ [move]) (calls ++ (traffic.call? move).toList) := by
  cases move with
  | pass span => exact transcribed.unmoved rfl (fun _ => rfl)
  | arrive service address token =>
      simp only [call?, Option.toList_none, List.append_nil]
      exact transcribed.joined rfl
  | proceed number =>
      cases pending : traffic.pending? number with
      | none =>
          simp only [Traffic.step, call?, pending, Option.map_none]
          exact transcribed.unmoved rfl (fun _ => rfl)
      | some waiter =>
          rcases waiter with ⟨check, phase⟩
          have waiting := pending?_eq_some_iff.mp pending
          simp only [Traffic.step, call?, pending, Option.map_some, Option.toList_some]
          refine transcribed.placed waiting rfl (by simp [observe]) ?_
          exact .answered ((transcribed.transcript number _ waiting).mono (List.mem_append_left _))
  | strand number =>
      cases pending : traffic.pending? number with
      | none =>
          simp only [Traffic.step, call?, pending, Option.map_none]
          exact transcribed.unmoved rfl (fun _ => rfl)
      | some waiter =>
          rcases waiter with ⟨check, phase⟩
          have waiting := pending?_eq_some_iff.mp pending
          simp only [Traffic.step, call?, pending, Option.map_some, Option.toList_some]
          refine transcribed.placed waiting rfl (by simp [observe]) ?_
          exact .stranded ((transcribed.transcript number _ waiting).mono (List.mem_append_left _))
            (by simp)
  | cancel number =>
      cases pending : traffic.pending? number with
      | none =>
          simp only [Traffic.step, call?, pending]
          exact transcribed.unmoved rfl (fun _ => rfl)
      | some waiter =>
          rcases waiter with ⟨check, phase⟩
          have waiting := pending?_eq_some_iff.mp pending
          simp only [Traffic.step, call?, pending]
          refine transcribed.placed waiting rfl (by simp) ?_
          rw [Option.toList_none, List.append_nil]
          exact .cancelled ((transcribed.transcript number _ waiting).mono (List.mem_append_left _))
  | direct operation =>
      refine transcribed.unmoved rfl ?_
      intro number
      simp [call?, observe, callsOf]

/-- The calls of each check in any traffic follow the phases of the check. -/
theorem transcribed (window : Duration) (moves : List Move) :
    Transcribed ((fresh window).run moves) moves ((fresh window).history moves) := by
  induction moves using List.reverseRecOn with
  | nil => exact ⟨by simp [fresh], by simp [history, callsOf]⟩
  | append_singleton earlier move ih =>
      rw [run_append, history_append, history_singleton]
      exact ih.step move

/-! ## Where the calls in a history come from -/

theorem check_of_mem_place {next : Traffic} {check : Check} {phase : Check.Phase}
    {state : FlightState} {flight : Flight}
    (pending : traffic.pending? number = some (check, phase))
    (same : next.flights = traffic.flights)
    (member : flight ∈ (next.place number check state).flights) :
    ∃ old ∈ traffic.flights, flight.check = old.check := by
  rcases List.mem_or_eq_of_mem_set member with old | rfl
  · exact ⟨flight, same ▸ old, rfl⟩
  · exact ⟨_, List.mem_of_getElem? (pending?_eq_some_iff.mp pending), rfl⟩

/-- A move changes no check, and brings a new one only when a client arrives. -/
theorem check_of_mem_step {flight : Flight} (member : flight ∈ (traffic.step move).flights) :
    (∃ old ∈ traffic.flights, flight.check = old.check) ∨
      ∃ service address token, move = .arrive service address token ∧
        flight.check = service.check address token := by
  cases move with
  | pass span => exact Or.inl ⟨flight, member, rfl⟩
  | arrive service address token =>
      rcases List.mem_append.mp member with old | new
      · exact Or.inl ⟨flight, old, rfl⟩
      · rw [List.mem_singleton.mp new]
        exact Or.inr ⟨service, address, token, rfl, rfl⟩
  | proceed number =>
      cases pending : traffic.pending? number with
      | none =>
          simp only [Traffic.step, pending] at member
          exact Or.inl ⟨flight, member, rfl⟩
      | some waiter =>
          simp only [Traffic.step, pending] at member
          exact Or.inl (check_of_mem_place pending rfl member)
  | strand number =>
      cases pending : traffic.pending? number with
      | none =>
          simp only [Traffic.step, pending] at member
          exact Or.inl ⟨flight, member, rfl⟩
      | some waiter =>
          simp only [Traffic.step, pending] at member
          exact Or.inl (check_of_mem_place pending rfl member)
  | cancel number =>
      cases pending : traffic.pending? number with
      | none =>
          simp only [Traffic.step, pending] at member
          exact Or.inl ⟨flight, member, rfl⟩
      | some waiter =>
          simp only [Traffic.step, pending] at member
          exact Or.inl (check_of_mem_place pending rfl member)
  | direct operation => exact Or.inl ⟨flight, member, rfl⟩

/-- Services with the same limits make the same check for an identity. -/
theorem check_eq_checkFor (shared : SharedLimits limits moves) {flight : Flight}
    (member : flight ∈ ((fresh window).run moves).flights) :
    flight.check = limits.checkFor flight.check.identity := by
  induction moves using List.reverseRecOn generalizing flight with
  | nil => cases member
  | append_singleton earlier move ih =>
      have sharedBefore : SharedLimits limits earlier := by
        intro service address token arrives
        exact shared service address token (List.mem_append_left _ arrives)
      rw [run_append] at member
      rcases check_of_mem_step member with
        ⟨old, oldMember, same⟩ | ⟨service, address, token, rfl, new⟩
      · rw [same]
        exact ih sharedBefore oldMember
      · have limitsEq : service.limits = limits := shared service address token (by simp)
        rw [new, ← limitsEq]
        rfl

theorem direct_of_caller_none {call : StoreCall} (made : call ∈ traffic.history moves)
    (unnumbered : call.caller = none) : Move.direct call.operation ∈ moves := by
  induction moves generalizing traffic with
  | nil => cases made
  | cons move rest ih =>
      rcases List.mem_append.mp made with now | later
      · cases move with
        | pass span => cases now
        | arrive service address token => cases now
        | proceed number =>
            simp only [call?, Option.mem_toList, Option.map_eq_some_iff] at now
            rcases now with ⟨waiter, _, rfl⟩
            cases unnumbered
        | strand number =>
            simp only [call?, Option.mem_toList, Option.map_eq_some_iff] at now
            rcases now with ⟨waiter, _, rfl⟩
            cases unnumbered
        | cancel number => cases now
        | direct operation =>
            simp only [call?, Option.toList_some, List.mem_singleton] at now
            rw [now]
            exact List.mem_cons_self
      · exact List.mem_cons_of_mem _ (ih later)

theorem transcript_of_held (shared : SharedLimits limits moves) {flight : Flight}
    (held : ((fresh window).run moves).flights[number]? = some flight) :
    Transcript number (limits.checkFor flight.check.identity) (Move.strand number ∈ moves)
      (callsOf number ((fresh window).history moves)) flight.state := by
  have transcript := (transcribed window moves).transcript number flight held
  rwa [check_eq_checkFor shared (List.mem_of_getElem? held)] at transcript

/-- Every call in a history was made straight on the store or by a check, and that check is known
with its transcript. -/
theorem made_by (shared : SharedLimits limits moves) {call : StoreCall}
    (made : call ∈ (fresh window).history moves) :
    call.caller = none ∧ Move.direct call.operation ∈ moves ∨
      ∃ number identity state, call.caller = some number ∧
        ((fresh window).run moves).flights[number]? = some ⟨limits.checkFor identity, state⟩ ∧
        Transcript number (limits.checkFor identity) (Move.strand number ∈ moves)
          (callsOf number ((fresh window).history moves)) state := by
  cases caller : call.caller with
  | none => exact Or.inl ⟨rfl, direct_of_caller_none made caller⟩
  | some number =>
      right
      have own : call ∈ callsOf number ((fresh window).history moves) :=
        mem_callsOf.mpr ⟨made, caller⟩
      cases held : ((fresh window).run moves).flights[number]? with
      | none =>
          rw [(transcribed window moves).unborn number held] at own
          cases own
      | some flight =>
          refine ⟨number, flight.check.identity, flight.state, rfl, ?_,
            transcript_of_held shared held⟩
          rw [← check_eq_checkFor shared (List.mem_of_getElem? held)]
          exact held

/-- A call that is the call of no phase was made straight on the store. -/
theorem is_direct (shared : SharedLimits limits moves) {call : StoreCall} {operation : Operation}
    (made : call ∈ (fresh window).history moves) (performs : call.operation = operation)
    (foreign : ∀ (check : Check) (phase : Check.Phase), operation ≠ check.operation phase) :
    Move.direct operation ∈ moves := by
  rcases made_by shared made with ⟨_, direct⟩ | ⟨number, subject, state, caller, _, transcript⟩
  · rwa [performs] at direct
  · rcases transcript.operation_of_mem (mem_callsOf.mpr ⟨made, caller⟩) with ⟨phase, same⟩
    exact absurd (performs.symm.trans same) (foreign _ phase)

end Traffic

end AdmissionControl

import AdmissionControl.Proofs.Admission.Course
import AdmissionControl.Proofs.Remote.Effect
import AdmissionControl.Proofs.Remote.Replies
import AdmissionControl.Proofs.Remote.Sending

/-!
# Decisions through an adapter

What a service decides through an adapter, in terms of the replies that the adapter hears
(`Deployment.heard?`). Nothing is known of the server: its keys, its script and the connection may
be in any state. A script may make it say anything (`Deployment.heard_of_script`), so what holds of
the replies that are heard holds of any replies at all.

An adapter answers at once or never. A deadline of the service therefore matters only to a call that
the server leaves unanswered.
-/

namespace AdmissionControl.Remote

/-- The connection that an adapter sends its next commands over, and the server once it has it. -/
def Adapter.access? (adapter : Adapter) (route : Route) (server : Server) :
    Option (Connection × Server) :=
  match adapter.link with
  | .connected connection => some (connection, server)
  | .lost =>
      match openWithRetries route adapter.address retries server with
      | (.done (.ok connection), after) => some (connection, after)
      | _ => none
  | .closed => none

/-- What an operation comes to, by what comes back for its commands. -/
def Exchange.arrival (operation : Operation) (exchange : Exchange) : Arrival operation.Result :=
  match exchange.read with
  | .silence => .hangs
  | .done values => Adapter.report (values.bind (Adapter.meaning operation))

/-! ## What operations come to -/

section

variable {α : Type} {computed : Except Fault α} {wait : Option Duration}

theorem report_eq_ok_iff {result : α} :
    Adapter.report computed = .answers wait (.ok result) ↔ wait = none ∧ computed = .ok result := by
  cases computed with
  | error fault => exact ⟨nofun, nofun⟩
  | ok value =>
      constructor
      · rintro ⟨⟩
        exact ⟨rfl, rfl⟩
      · rintro ⟨rfl, ⟨⟩⟩
        rfl

theorem reported_of_report {failure : Failure}
    (failed : Adapter.report computed = .answers wait (.error failure)) :
    wait = none ∧ ∃ fault, failure = .reported fault := by
  cases computed with
  | error fault =>
      cases failed
      exact ⟨rfl, _, rfl⟩
  | ok value => cases failed

end

namespace Exchange

variable {operation : Operation} {wait : Option Duration}

theorem arrival_eq_ok_iff (exchange : Exchange) {result : operation.Result} :
    exchange.arrival operation = .answers wait (.ok result) ↔
      wait = none ∧ ∃ replies, exchange = .replies replies ∧
        (Reply.readAll replies).bind (Adapter.meaning operation) = .ok result := by
  cases exchange with
  | replies list =>
      have answered : (Exchange.replies list).arrival operation =
          Adapter.report ((Reply.readAll list).bind (Adapter.meaning operation)) := rfl
      rw [answered, report_eq_ok_iff]
      simp
  | silence => exact ⟨nofun, nofun⟩
  | hangUp => exact ⟨nofun, nofun⟩

theorem reported_of_arrival (exchange : Exchange) {failure : Failure}
    (failed : exchange.arrival operation = .answers wait (.error failure)) :
    wait = none ∧ ∃ fault, failure = .reported fault := by
  cases exchange with
  | replies list => exact reported_of_report failed
  | silence => cases failed
  | hangUp => exact reported_of_report failed

end Exchange

namespace Deployment

/-- What comes back for the commands of an operation, if there is a connection to send them over. -/
def heard? (deployment : Deployment) (index : Nat) (operation : Operation) : Option Exchange :=
  (deployment.adapters[index]?).bind fun adapter =>
    (adapter.access? deployment.route deployment.server).map fun (connection, server) =>
      (server.exchange connection (Adapter.commands adapter.window operation)).1

variable {deployment : Deployment} {index : Nat} {operation : Operation} {identity : Identity}
  {span : Duration} {wait : Option Duration}

/-- An operation comes to what its replies say; without a connection it fails or hangs. -/
theorem perform_cases (kept : operation ≠ .close) :
    (∃ exchange, deployment.heard? index operation = some exchange ∧
        (deployment.perform index operation).1 = exchange.arrival operation) ∨
      deployment.heard? index operation = none ∧
        ((deployment.perform index operation).1 = .hangs ∨
          ∃ fault, (deployment.perform index operation).1 =
            .answers none (.error (.reported fault))) := by
  cases present : deployment.adapters[index]? with
  | none => exact .inr ⟨by simp [heard?, present], .inr ⟨.storeClosed, by simp [perform, present]⟩⟩
  | some adapter =>
      simp only [heard?, perform, present, Option.bind_some, Adapter.perform_of_kept kept]
      cases link : adapter.link with
      | connected connection =>
          simp only [Adapter.access?, link]
          exact .inl ⟨_, rfl, rfl⟩
      | closed =>
          simp only [Adapter.access?, link]
          exact .inr ⟨rfl, .inr ⟨_, rfl⟩⟩
      | lost =>
          simp only [Adapter.access?, link]
          rcases openWithRetries deployment.route adapter.address retries deployment.server with
            ⟨opened, after⟩
          cases opened with
          | silence => exact .inr ⟨rfl, .inl rfl⟩
          | done result =>
              cases result with
              | ok connection => exact .inl ⟨_, rfl, rfl⟩
              | error fault => exact .inr ⟨rfl, .inr ⟨_, rfl⟩⟩

theorem length_of_heard {replies : List Reply} (window : Duration)
    (heard : deployment.heard? index operation = some (.replies replies)) :
    replies.length = (Adapter.commands window operation).length := by
  simp only [heard?, Option.bind_eq_some_iff, Option.map_eq_some_iff] at heard
  rcases heard with ⟨adapter, _, ⟨connection, server⟩, _, exchanged⟩
  have sent := length_of_exchange (Prod.ext exchanged rfl)
  -- The window stands in one of the commands, but does not change how many there are.
  cases operation <;> exact sent

/-- An operation succeeds exactly if the replies to its commands mean its result. -/
theorem perform_eq_ok_iff (kept : operation ≠ .close) {result : operation.Result} :
    (deployment.perform index operation).1 = .answers wait (.ok result) ↔
      wait = none ∧ ∃ replies, deployment.heard? index operation = some (.replies replies) ∧
        (Reply.readAll replies).bind (Adapter.meaning operation) = .ok result := by
  rcases perform_cases kept with ⟨exchange, heard, arrived⟩ | ⟨unheard, hangs | ⟨fault, failed⟩⟩
  · rw [arrived, heard, exchange.arrival_eq_ok_iff]
    simp only [Option.some.injEq]
  · rw [hangs, unheard]
    exact ⟨nofun, nofun⟩
  · rw [failed, unheard]
    exact ⟨nofun, nofun⟩

/-- An operation that fails reports why. -/
theorem reported_of_perform (kept : operation ≠ .close) {failure : Failure}
    (failed : (deployment.perform index operation).1 = .answers wait (.error failure)) :
    wait = none ∧ ∃ fault, failure = .reported fault := by
  rcases perform_cases kept with ⟨exchange, heard, arrived⟩ | ⟨unheard, hangs | ⟨fault, faulty⟩⟩
  · rw [arrived] at failed
    exact exchange.reported_of_arrival failed
  · rw [hangs] at failed
    cases failed
  · rw [faulty] at failed
    cases failed
    exact ⟨rfl, fault, rfl⟩

/-- Any replies at all can be heard: a script may hold them. -/
theorem heard_of_script {adapter : Adapter} {connection : Connection} {replies : List Reply}
    {rest : List (Option Delivery)} (present : deployment.adapters[index]? = some adapter)
    (connected : adapter.link = .connected connection) (speaking : connection.silent = false)
    (scripted : deployment.server.script = replies.map (fun reply => some (.reply reply)) ++ rest)
    (length : replies.length = (Adapter.commands adapter.window operation).length) :
    deployment.heard? index operation = some (.replies replies) := by
  have exchanged := exchange_of_script speaking scripted length
  simp only [heard?, present, Adapter.access?, connected, Option.bind_some, Option.map_some,
    exchanged]

/-- The lookup of a block is answered with a number. -/
def Tells (deployment : Deployment) (index : Nat) (identity : Identity) (word : UInt64) : Prop :=
  ∃ reply, deployment.heard? index (.isBlocked identity) = some (.replies [reply]) ∧
    reply.Decodes word

/-- The transaction of a raise is answered without an error, and with two results the second of
which is a number. -/
def Counts (deployment : Deployment) (index : Nat) (identity : Identity) (count : UInt64) : Prop :=
  ∃ begun created raised first second,
    deployment.heard? index (.increment identity) =
      some (.replies [begun, created, raised, .array [first, second]]) ∧
    (∀ reply ∈ [begun, created, raised, .array [first, second]], ¬reply.HasError) ∧
    second.Decodes count

/-- The setting of a block is answered without an error. -/
def Confirms (deployment : Deployment) (index : Nat) (identity : Identity) (span : Duration) :
    Prop :=
  ∃ reply, deployment.heard? index (.block identity span) = some (.replies [reply]) ∧
    ¬reply.HasError

theorem perform_isBlocked_iff {found : Bool} :
    (deployment.perform index (.isBlocked identity)).1 = .answers wait (.ok found) ↔
      wait = none ∧ ∃ word, deployment.Tells index identity word ∧ found = decide (0 < word) := by
  have kept : Operation.isBlocked identity ≠ .close := nofun
  rw [perform_eq_ok_iff kept]
  refine and_congr_right fun _ => ?_
  constructor
  · rintro ⟨replies, heard, means⟩
    rcases List.length_eq_one_iff.mp (length_of_heard ⟨0⟩ heard) with ⟨reply, rfl⟩
    rcases Reply.meaning_isBlocked_iff.mp means with ⟨word, decodes, same⟩
    exact ⟨word, ⟨reply, heard, decodes⟩, same⟩
  · rintro ⟨word, ⟨reply, heard, decodes⟩, same⟩
    exact ⟨[reply], heard, Reply.meaning_isBlocked_iff.mpr ⟨word, decodes, same⟩⟩

theorem perform_increment_iff {count : UInt64} :
    (deployment.perform index (.increment identity)).1 = .answers wait (.ok count) ↔
      wait = none ∧ deployment.Counts index identity count := by
  have kept : Operation.increment identity ≠ .close := nofun
  rw [perform_eq_ok_iff kept]
  refine and_congr_right fun _ => ?_
  constructor
  · rintro ⟨replies, heard, means⟩
    match replies, length_of_heard ⟨0⟩ heard with
    | [begun, created, raised, executed], _ =>
        rcases Reply.meaning_increment_iff.mp means with
          ⟨fineBegun, fineCreated, fineRaised, first, second, rfl, fineFirst, decodes⟩
        refine ⟨begun, created, raised, first, second, heard, ?_, decodes⟩
        simp [fineBegun, fineCreated, fineRaised, Reply.hasError_array_iff, fineFirst,
          decodes.fine]
  · rintro ⟨begun, created, raised, first, second, heard, fine, decodes⟩
    refine ⟨_, heard, Reply.meaning_increment_iff.mpr
      ⟨fine begun (by simp), fine created (by simp), fine raised (by simp), first, second, rfl, ?_,
        decodes⟩⟩
    intro faulty
    exact fine (.array [first, second]) (by simp) (.array List.mem_cons_self faulty)

theorem perform_block_iff :
    (deployment.perform index (.block identity span)).1 = .answers wait (.ok ()) ↔
      wait = none ∧ deployment.Confirms index identity span := by
  have kept : Operation.block identity span ≠ .close := nofun
  rw [perform_eq_ok_iff kept]
  refine and_congr_right fun _ => ?_
  constructor
  · rintro ⟨replies, heard, means⟩
    rcases List.length_eq_one_iff.mp (length_of_heard ⟨0⟩ heard) with ⟨reply, rfl⟩
    exact ⟨reply, heard, Reply.meaning_block_iff.mp means⟩
  · rintro ⟨reply, heard, fine⟩
    exact ⟨[reply], heard, Reply.meaning_block_iff.mpr fine⟩

end Deployment

/-! ## Calls and checks -/

/-- The course of events after a call that was answered at once. -/
def afterCall (index : Nat) (timeline : Timeline Deployment) (operation : Operation) :
    Timeline Deployment where
  now := timeline.now
  contents := (timeline.contents.perform index operation).2
  calls := timeline.calls ++ [(timeline.now, operation)]
  events := timeline.events ++ timeline.contents.announce index operation

section

variable {timeline after : Timeline Deployment} {deadline : Option Instant} {index : Nat}
  {operation : Operation}

theorem call_of_answers {answer : Answer operation.Result}
    (answered : (timeline.contents.perform index operation).1 = .answers none answer) :
    timeline.call (Deployment.store index) deadline operation =
      (.answered answer, afterCall index timeline operation) := by
  simp [Timeline.call, Deployment.store, answered, afterCall]

/-- A call through an adapter is answered at once, or never. -/
theorem call_cases (kept : operation ≠ .close) :
    (∃ answer, (timeline.contents.perform index operation).1 = .answers none answer ∧
      (∀ failure, answer = .error failure → ∃ fault, failure = .reported fault) ∧
      timeline.call (Deployment.store index) deadline operation =
        (.answered answer, afterCall index timeline operation)) ∨
    (timeline.contents.perform index operation).1 = .hangs ∧
      ∀ answer after, timeline.call (Deployment.store index) deadline operation ≠
        (.answered answer, after) := by
  cases arrival : (timeline.contents.perform index operation).1 with
  | answers wait answer =>
      have prompt : wait = none ∧
          ∀ failure, answer = .error failure → ∃ fault, failure = .reported fault := by
        cases answer with
        | ok result => exact ⟨((Deployment.perform_eq_ok_iff kept).mp arrival).1, nofun⟩
        | error failure =>
            rcases Deployment.reported_of_perform kept arrival with ⟨prompt, fault, rfl⟩
            refine ⟨prompt, ?_⟩
            rintro _ ⟨⟩
            exact ⟨fault, rfl⟩
      rcases prompt with ⟨rfl, reported⟩
      exact .inl ⟨answer, rfl, reported, call_of_answers arrival⟩
  | hangs =>
      refine .inr ⟨rfl, ?_⟩
      intro answer after answered
      cases deadline <;> simp [Timeline.call, Deployment.store, arrival] at answered

theorem call_eq_ok_iff (kept : operation ≠ .close) {result : operation.Result} :
    timeline.call (Deployment.store index) deadline operation = (.answered (.ok result), after) ↔
      (timeline.contents.perform index operation).1 = .answers none (.ok result) ∧
        after = afterCall index timeline operation := by
  constructor
  · intro called
    rcases @call_cases timeline deadline index _ kept with ⟨answer, answered, _, same⟩ | ⟨_, never⟩
    · rw [same] at called
      cases called
      exact ⟨answered, rfl⟩
    · exact absurd called (never _ _)
  · rintro ⟨answered, rfl⟩
    exact call_of_answers answered

variable {identity : Identity} {span : Duration}

theorem call_free_iff :
    timeline.call (Deployment.store index) deadline (.isBlocked identity) =
        (.answered (.ok false), after) ↔
      timeline.contents.Tells index identity 0 ∧
        after = afterCall index timeline (.isBlocked identity) := by
  have kept : Operation.isBlocked identity ≠ .close := nofun
  rw [call_eq_ok_iff kept, Deployment.perform_isBlocked_iff]
  refine and_congr_left fun _ => ?_
  constructor
  · rintro ⟨_, word, tells, free⟩
    have zero : word = 0 := by
      simpa [← UInt64.toNat_inj, UInt64.lt_iff_toNat_lt] using free
    exact zero ▸ tells
  · intro tells
    exact ⟨rfl, 0, tells, by decide⟩

theorem call_blocked_iff :
    timeline.call (Deployment.store index) deadline (.isBlocked identity) =
        (.answered (.ok true), after) ↔
      (∃ word, timeline.contents.Tells index identity word ∧ word ≠ 0) ∧
        after = afterCall index timeline (.isBlocked identity) := by
  have kept : Operation.isBlocked identity ≠ .close := nofun
  have positive (word : UInt64) : true = decide (0 < word) ↔ word ≠ 0 := by
    simp [← UInt64.toNat_inj, UInt64.lt_iff_toNat_lt, Nat.pos_iff_ne_zero]
  rw [call_eq_ok_iff kept, Deployment.perform_isBlocked_iff]
  simp only [positive, true_and]

theorem call_raised_iff {count : UInt64} :
    timeline.call (Deployment.store index) deadline (.increment identity) =
        (.answered (.ok count), after) ↔
      timeline.contents.Counts index identity count ∧
        after = afterCall index timeline (.increment identity) := by
  have kept : Operation.increment identity ≠ .close := nofun
  rw [call_eq_ok_iff kept, Deployment.perform_increment_iff]
  simp only [true_and]

theorem call_set_iff :
    timeline.call (Deployment.store index) deadline (.block identity span) =
        (.answered (.ok ()), after) ↔
      timeline.contents.Confirms index identity span ∧
        after = afterCall index timeline (.block identity span) := by
  have kept : Operation.block identity span ≠ .close := nofun
  rw [call_eq_ok_iff kept, Deployment.perform_block_iff]
  simp only [true_and]

/-- A call that fails leaves its service with a fault, or with nothing if the server is silent and
the service waits for it without a limit. -/
theorem undecided_of_failed {service : Service} {reception : Reception operation.Result}
    {failing : Reception Decision} {start : Instant} (kept : operation ≠ .close)
    (call : timeline.call (Deployment.store index) (service.deadline start) operation =
      (reception, after))
    (failed : reception.failed? = some failing) :
    (∃ fault, service.conclude failing = .answered (.error (.reported fault))) ∨
      service.conclude failing = .unanswered ∧ service.timeout = none ∧
        (timeline.contents.perform index operation).1 = .hangs := by
  rcases @call_cases timeline (service.deadline start) index _ kept with
    ⟨answer, _, reported, same⟩ | ⟨hangs, never⟩
  · rw [same] at call
    cases call
    cases answer with
    | ok result => cases failed
    | error failure =>
        cases failed
        rcases reported failure rfl with ⟨fault, rfl⟩
        exact .inl ⟨fault, rfl⟩
  · have late : ∀ answer, failing ≠ .answered answer := by
      rintro answer rfl
      cases reception with
      | answered result => exact never _ _ call
      | expired => cases failed
      | unanswered => cases failed
    rcases service.conclude_of_late late with fault | ⟨concluded, unlimited⟩
    · exact .inl fault
    · exact .inr ⟨concluded, unlimited, hangs⟩

end

/-- An operation that sets no block sends nothing for the key of one. -/
theorem unblocked_of_perform {deployment : Deployment} {index : Nat} {operation : Operation}
    (kept : operation ≠ .close) (unblocking : ∀ identity span, operation ≠ .block identity span) :
    deployment.server.Received
      (fun command => ∀ subject value once lifetime,
        command ≠ .set (blockedKey subject) value once lifetime)
      (deployment.perform index operation).2.server :=
  (Deployment.received_of_perform kept).mono fun _ ⟨_, sends⟩ => sends.ne_set unblocking

/-- A check through an adapter comes to a decision or to a fault; only a call that the server never
answers can leave its service with neither. -/
theorem concluded_of_course {check : Check} {service : Service} {index : Nat} {start : Instant}
    {timeline after : Timeline Deployment} {reception : Reception Decision}
    (course : check.Course (Deployment.store index) (service.deadline start) timeline reception
      after) :
    let first := timeline.contents
    let second := (first.perform index (.isBlocked check.identity)).2
    let third := (second.perform index (.increment check.identity)).2
    (∃ decision, service.conclude reception = .answered (.ok decision)) ∨
      (∃ fault, service.conclude reception = .answered (.error (.reported fault))) ∨
      service.conclude reception = .unanswered ∧ service.timeout = none ∧
        ((first.perform index (.isBlocked check.identity)).1 = .hangs ∨
          (second.perform index (.increment check.identity)).1 = .hangs ∨
          (third.perform index (.block check.identity check.blockSpan)).1 = .hangs) := by
  intro first second third
  cases course with
  | blocked lookup => exact .inl ⟨_, rfl⟩
  | within lookup raise within => exact .inl ⟨_, rfl⟩
  | beyond lookup raise beyond block => exact .inl ⟨_, rfl⟩
  | lookupFailed lookup failed =>
      rcases undecided_of_failed (check.operation_ne_close .lookup) lookup failed with
        fault | ⟨never, unlimited, hangs⟩
      · exact .inr (.inl fault)
      · exact .inr (.inr ⟨never, unlimited, .inl hangs⟩)
  | raiseFailed lookup raise failed =>
      rcases call_free_iff.mp lookup with ⟨_, rfl⟩
      rcases undecided_of_failed (check.operation_ne_close .count) raise failed with
        fault | ⟨never, unlimited, hangs⟩
      · exact .inr (.inl fault)
      · exact .inr (.inr ⟨never, unlimited, .inr (.inl hangs)⟩)
  | blockFailed lookup raise beyond block failed =>
      rcases call_free_iff.mp lookup with ⟨_, rfl⟩
      rcases call_raised_iff.mp raise with ⟨_, rfl⟩
      rcases undecided_of_failed (check.operation_ne_close (.block 0)) block failed with
        fault | ⟨never, unlimited, hangs⟩
      · exact .inr (.inl fault)
      · exact .inr (.inr ⟨never, unlimited, .inr (.inr hangs)⟩)

/-- What a service decides through an adapter follows from the replies that the adapter hears. It
lets a client through exactly if the lookup is answered with zero and the transaction without an
error, with a count within the limit as the second of two results; then no block is set. It turns a
client away exactly if the lookup is answered with another number, or a count beyond the limit is
read in the same way and the block is confirmed. Nothing else is a decision. -/
theorem decision_iff_replies (service : Service) (address token : String) (index : Nat)
    (timeline : Timeline Deployment) :
    let subject := Identity.resolve address token
    let limit := service.limits.limitFor subject
    let first := timeline.contents
    let second := (first.perform index (.isBlocked subject)).2
    let third := (second.perform index (.increment subject)).2
    let outcome := service.decideOn (Deployment.store index) address token timeline
    ((∃ decision, outcome.1 = .answered (.ok decision) ∧ decision.allowed = true) ↔
      first.Tells index subject 0 ∧ ∃ count, second.Counts index subject count ∧ count ≤ limit) ∧
    (∀ decision, outcome.1 = .answered (.ok decision) → decision.allowed = true →
      second.Counts index subject decision.currentCount ∧ outcome.2.contents = third ∧
      outcome.2.calls = timeline.calls ++
        [(timeline.now, .isBlocked subject), (timeline.now, .increment subject)] ∧
      ∃ sent : List Command,
        third.server.received = first.server.received ++ sent.map Command.words ∧
        ∀ value once lifetime, .set (blockedKey subject) value once lifetime ∉ sent) ∧
    ((∃ decision, outcome.1 = .answered (.ok decision) ∧ decision.allowed = false) ↔
      (∃ word, first.Tells index subject word ∧ word ≠ 0) ∨
      first.Tells index subject 0 ∧ (∃ count, second.Counts index subject count ∧ ¬count ≤ limit) ∧
        third.Confirms index subject service.limits.blockSpan) ∧
    ((∃ decision, outcome.1 = .answered (.ok decision)) ∨
      (∃ fault, outcome.1 = .answered (.error (.reported fault))) ∨
      outcome.1 = .unanswered ∧ service.timeout = none ∧
        ((first.perform index (.isBlocked subject)).1 = .hangs ∨
          (second.perform index (.increment subject)).1 = .hangs ∨
          (third.perform index (.block subject service.limits.blockSpan)).1 = .hangs)) := by
  intro subject limit first second third outcome
  let check := service.check address token
  refine ⟨?_, ?_, ?_, ?_⟩
  · refine Service.allowed_iff.trans ⟨?_, ?_⟩
    · rintro ⟨looked, counted, count, lookup, raise, within⟩
      rcases call_free_iff.mp lookup with ⟨free, rfl⟩
      exact ⟨free, count, (call_raised_iff.mp raise).1, within⟩
    · rintro ⟨free, count, counts, within⟩
      exact ⟨_, _, count, call_free_iff.mpr ⟨free, rfl⟩, call_raised_iff.mpr ⟨counts, rfl⟩, within⟩
  · intro decision decided allowed
    have course : check.Course (Deployment.store index) (service.deadline timeline.now) timeline
        (.answered (.ok decision)) outcome.2 := Service.decideOn_ok_iff.mp (Prod.ext decided rfl)
    rcases course.of_allowed allowed with ⟨looked, lookup, raise, within⟩
    rcases call_free_iff.mp lookup with ⟨free, rfl⟩
    rcases call_raised_iff.mp raise with ⟨counts, after⟩
    rw [after]
    refine ⟨counts, rfl, List.append_assoc _ _ _, ?_⟩
    have lookup : first.server.Received _ second.server :=
      unblocked_of_perform (check.operation_ne_close .lookup) nofun
    have raise : second.server.Received _ third.server :=
      unblocked_of_perform (check.operation_ne_close .count) nofun
    rcases lookup.trans raise with ⟨sent, same, unblocked⟩
    exact ⟨sent, same, fun value once lifetime member => unblocked _ member subject _ _ _ rfl⟩
  · refine Service.denied_iff.trans (or_congr ?_ ⟨?_, ?_⟩)
    · constructor
      · rintro ⟨looked, lookup⟩
        exact (call_blocked_iff.mp lookup).1
      · intro blocked
        exact ⟨_, call_blocked_iff.mpr ⟨blocked, rfl⟩⟩
    · rintro ⟨looked, counted, count, set, lookup, raise, beyond, block⟩
      rcases call_free_iff.mp lookup with ⟨free, rfl⟩
      rcases call_raised_iff.mp raise with ⟨counts, rfl⟩
      exact ⟨free, ⟨count, counts, beyond⟩, (call_set_iff.mp block).1⟩
    · rintro ⟨free, ⟨count, counts, beyond⟩, confirms⟩
      exact ⟨_, _, count, _, call_free_iff.mpr ⟨free, rfl⟩, call_raised_iff.mpr ⟨counts, rfl⟩,
        beyond, call_set_iff.mpr ⟨confirms, rfl⟩⟩
  · rcases check.exists_course (Deployment.store index) (service.deadline timeline.now) timeline with
      ⟨reception, after, course⟩
    have concluded : outcome.1 = service.conclude reception :=
      congrArg Prod.fst (Service.decideOn_iff.mpr ⟨reception, course, rfl⟩)
    rw [concluded]
    exact concluded_of_course course

end AdmissionControl.Remote

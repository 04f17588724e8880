import AdmissionControl.Proofs.Remote.Expiries
import AdmissionControl.Proofs.Store.Footprint
import Mathlib.Algebra.Group.Int.Defs

/-!
# Raising a counter, whatever lies under its key

The transaction of a raise is not undone where one of its two commands fails: the other one is
carried out all the same. Where the second one fails, nothing is left behind nevertheless, because
the two exclude each other. The creation does something only where nothing lies under the key, and
what it puts there can be raised; a raise fails only on a text that was there before, since another
program may have put any text there.

Where the first one fails, because the server refuses the window, the counter is raised and the
client hears of a failure (`Raised.stray`). So a raise leaves either the next number or everything
as it was exactly as far as no window is refused (`raise_all_or_nothing_iff`). In either case nobody
is blocked on account of a raise that failed.
-/

namespace AdmissionControl.Remote

/-- The number that a raise of a key counts on from. A key without a value counts as zero, and a
text may be no number. -/
def Server.numberAt? (server : Server) (key : String) : Option Int :=
  match server.items.get? key with
  | none => some 0
  | some item => server.manner.number? item.value

/-- A raise of a key has something to count on from, and room for one more. -/
def Server.Raisable (server : Server) (key : String) : Prop :=
  ∃ number, server.numberAt? key = some number ∧ number ≠ maximum

/-- What lies under the key of a counter once it was raised to a number. Only a counter that was not
there before is given a lifetime. -/
def raisedItem (window : Duration) (now : Instant) (held : Option Item) (number : Int) : Item :=
  match held with
  | none => { value := toString number, lifetime := some (lifetime window),
              ending := some (Server.endOf now (lifetime window)) }
  | some item => { item with value := toString number }

/-- The same where the window is refused: a counter that was not there before has no lifetime. -/
def strayItem (held : Option Item) (number : Int) : Item :=
  { held.getD .nought with value := toString number }

def overflowFault : Fault :=
  .signalled .responseError (some "increment or decrement would overflow")

section

variable {window : Duration} {server : Server} {identity : Identity} {key : String} {number : Int}

/-! ## Raises -/

theorem Server.numberAt?_eq : server.numberAt? key =
    server.manner.number? ((server.items.get? key).getD .nought).value := by
  unfold numberAt?
  cases server.items.get? key with
  | none => exact (@Manner.number?_toString server.manner 0 (by decide)).symm
  | some item => rfl

theorem Server.numberAt?_bounds (held : server.numberAt? key = some number) :
    -9223372036854775808 ≤ number ∧ number < 9223372036854775808 := by
  rw [numberAt?_eq] at held
  exact Manner.number?_bounds held

theorem Server.numberAt?_of_raised {after : Server} {held? : Option Item}
    (raised : after.items.get? key = some (raisedItem window server.now held? (number + 1)))
    (held : server.numberAt? key = some number) (room : number < maximum) :
    after.numberAt? key = some (number + 1) := by
  have bounds := numberAt?_bounds held
  simp only [maximum] at room
  have readable : after.manner.number? (toString (number + 1)) = some (number + 1) :=
    Manner.number?_toString (by omega)
  cases held? <;> simpa [numberAt?, raised, raisedItem] using readable

/-- A word that a number is read into is that number modulo its width. -/
theorem toNat_ofInt (number : Int) : ((UInt64.ofInt number).toNat : Int) = number % 2 ^ 64 := by
  simp only [UInt64.ofInt, UInt64.toNat_ofNat']
  omega

/-- The second command of a transaction by itself. -/
inductive Incremented (server : Server) (key : String) : Reply × Table String Item → Prop
  | counted (number : Int) (held : server.numberAt? key = some number)
      (room : number < Server.maximum) :
      Incremented server key (.integer (number + 1),
        server.items.insert key (strayItem (server.items.get? key) (number + 1)))
  | unreadable (held : server.numberAt? key = none) :
      Incremented server key
        (.error "ERR value is not an integer or out of range", server.items)
  | overflown (held : server.numberAt? key = some Server.maximum) :
      Incremented server key
        (.error "ERR increment or decrement would overflow", server.items)

theorem incremented_cases :
    Incremented server key (Server.incremented server.manner server.items key) := by
  cases held : server.numberAt? key with
  | none =>
      have unreadable := held
      rw [Server.numberAt?_eq] at unreadable
      simp only [Server.incremented, unreadable]
      exact .unreadable held
  | some number =>
      have readable := held
      rw [Server.numberAt?_eq] at readable
      by_cases top : number = Server.maximum
      · subst top
        simp only [Server.incremented, readable, if_pos]
        exact .overflown held
      · rw [incremented_of_number rfl readable top]
        have bounds := Server.numberAt?_bounds held
        refine .counted number held ?_
        simp only [Server.maximum] at top ⊢
        omega

namespace Incremented

variable {reply : Reply} {after : Table String Item}

theorem others (incremented : Incremented server key (reply, after)) {other : String}
    (differs : other ≠ key) : after.get? other = server.items.get? other := by
  cases incremented with
  | counted number held room => rw [Table.get?_insert, if_neg differs]
  | unreadable held => rfl
  | overflown held => rfl

theorem get?_of_number (incremented : Incremented server key (reply, after))
    (held : server.numberAt? key = some number) (room : number ≠ Server.maximum) :
    after.get? key = some (strayItem (server.items.get? key) (number + 1)) := by
  cases incremented with
  | counted found here below =>
      cases here.symm.trans held
      rw [Table.get?_insert, if_pos rfl]
  | unreadable here => cases here.symm.trans held
  | overflown here =>
      cases here.symm.trans held
      exact absurd rfl room

theorem eq_of_not_raisable (incremented : Incremented server key (reply, after))
    (fixed : ¬server.Raisable key) : after = server.items := by
  cases incremented with
  | counted number held room => exact absurd ⟨number, held, Int.ne_of_lt room⟩ fixed
  | unreadable held => rfl
  | overflown held => rfl

end Incremented

/-- A failure leaves a text alone that was there before. -/
theorem effect_increment_of_failure {item : Item} {line : String}
    (taken : server.manner.refusal? (lifetime window) = none)
    (present : server.items.get? (counterKey identity) = some item)
    (fails : Server.incremented server.manner server.items (counterKey identity) =
      (.error line, server.items)) :
    effect window server (.increment identity) = (.error (.ofLine line), server.items) := by
  have carried : Server.carryOut server.manner server.now server.items
      (.increment (counterKey identity)) = (.error line, server.items) := fails
  simp only [effect, transaction, Server.carryOutAll, carryOut_creation_of_present taken present,
    carried]
  simp [Reply.read, Reply.readAll, Except.map, Except.bind]

/-- What a raise comes to, with what it leaves under the keys. -/
inductive Raised (window : Duration) (server : Server) (identity : Identity) :
    Except Fault UInt64 × Table String Item → Prop
  | counted {after : Table String Item} (number : Int)
      (taken : server.manner.refusal? (lifetime window) = none)
      (held : server.numberAt? (counterKey identity) = some number)
      (room : number < Server.maximum)
      (key : after.get? (counterKey identity) = some (raisedItem window server.now
        (server.items.get? (counterKey identity)) (number + 1)))
      (others : ∀ other, other ≠ counterKey identity →
        after.get? other = server.items.get? other) :
      Raised window server identity (.ok (UInt64.ofInt (number + 1)), after)
  | unreadable (taken : server.manner.refusal? (lifetime window) = none)
      (held : server.numberAt? (counterKey identity) = none) :
      Raised window server identity (.error unreadableFault, server.items)
  | overflown (taken : server.manner.refusal? (lifetime window) = none)
      (held : server.numberAt? (counterKey identity) = some Server.maximum) :
      Raised window server identity (.error overflowFault, server.items)
  /-- The window is refused, and the counter is raised all the same. -/
  | stray {line : String} {reply : Reply} {after : Table String Item}
      (refused : server.manner.refusal? (lifetime window) = some line)
      (incremented : Incremented server (counterKey identity) (reply, after)) :
      Raised window server identity (.error (.ofLine line), after)

theorem effect_increment_cases :
    Raised window server identity (effect window server (.increment identity)) := by
  have incremented := @incremented_cases server (counterKey identity)
  cases refusal : server.manner.refusal? (lifetime window) with
  | some line =>
      rw [effect_increment_of_refused refusal]
      exact .stray refusal incremented
  | none =>
      have others : ∀ other, other ≠ counterKey identity →
          (effect window server (.increment identity)).2.get? other =
            server.items.get? other := by
        intro other differs
        apply effect_of_other
        simpa [changedKey?] using differs.symm
      -- The cases are those of the old value: none, no number, the largest number, another one.
      cases present : server.items.get? (counterKey identity) with
      | none =>
          rw [effect_increment_of_absent refusal present] at others ⊢
          have held : server.numberAt? (counterKey identity) = some 0 := by
            simp [Server.numberAt?, present]
          refine .counted 0 refusal held (by decide) ?_ others
          rw [present, Table.get?_insert, if_pos rfl]
          rfl
      | some item =>
          have read : server.numberAt? (counterKey identity) =
              server.manner.number? item.value := by
            simp [Server.numberAt?, present]
          generalize raised : Server.incremented server.manner server.items
            (counterKey identity) = outcome at incremented
          cases incremented with
          | counted number held room =>
              rw [effect_increment_of_number refusal present (read.symm.trans held)
                (Int.ne_of_lt room)] at others ⊢
              refine .counted number refusal held room ?_ others
              rw [present, Table.get?_insert, if_pos rfl]
              rfl
          | unreadable held =>
              rw [effect_increment_of_failure refusal present raised]
              exact .unreadable refusal held
          | overflown held =>
              rw [effect_increment_of_failure refusal present raised]
              exact .overflown refusal held

end

/-! ## Raises through an adapter -/

variable {deployment : Deployment} {entrance : Nat} {window : Duration} {identity : Identity}

namespace Deployment

def Succeeds (deployment : Deployment) (entrance : Nat) (identity : Identity) : Prop :=
  ∃ wait count, (deployment.perform entrance (.increment identity)).1 = .answers wait (.ok count)

theorem exists_raised (reaches : deployment.access entrance = .ok window) :
    ∃ answer after, Raised window deployment.server identity (answer, after) ∧
      deployment.outcome entrance (.increment identity) = (Adapter.report answer, after) :=
  ⟨_, _, effect_increment_cases, outcome_of_access reaches⟩

namespace Steady

variable (steady : deployment.Steady)
include steady

theorem arrival_raise : (deployment.perform entrance (.increment identity)).1 =
    (deployment.outcome entrance (.increment identity)).1 := by
  have kept : Operation.increment identity ≠ .close := nofun
  exact (steady.perform entrance kept).1

theorem items_raise : (deployment.perform entrance (.increment identity)).2.server.items =
    (deployment.outcome entrance (.increment identity)).2 := by
  have kept : Operation.increment identity ≠ .close := nofun
  exact (steady.perform entrance kept).2.items

theorem succeeds_iff : deployment.Succeeds entrance identity ↔
    (∃ window, deployment.access entrance = .ok window ∧
      deployment.server.manner.refusal? (lifetime window) = none) ∧
    deployment.server.Raisable (counterKey identity) := by
  rw [Succeeds, steady.arrival_raise]
  cases access : deployment.access entrance with
  | error impasse =>
      rw [outcome_of_impasse access]
      cases impasse <;> simp [Impasse.arrival, report_error]
  | ok window =>
      rcases @exists_raised _ _ _ identity access with ⟨answer, after, raised, outcome⟩
      rw [outcome]
      cases raised with
      | counted number taken held room key others =>
          have below : number ≠ Server.maximum := Int.ne_of_lt room
          simp [report_ok, taken, Server.Raisable, held, below]
      | unreadable taken held => simp [report_error, Server.Raisable, held]
      | overflown taken held => simp [report_error, Server.Raisable, held]
      | stray refused incremented => simp [report_error, refused]

theorem counted_of_raise {wait : Option Duration} {count : UInt64}
    (counted : (deployment.perform entrance (.increment identity)).1 = .answers wait (.ok count)) :
    let server := deployment.server
    let after := (deployment.perform entrance (.increment identity)).2.server
    ∃ window number, deployment.access entrance = .ok window ∧
      server.numberAt? (counterKey identity) = some number ∧
      (count.toNat : Int) = (number + 1) % 2 ^ 64 ∧
      after.numberAt? (counterKey identity) = some (number + 1) ∧
      after.items.get? (counterKey identity) = some (raisedItem window server.now
        (server.items.get? (counterKey identity)) (number + 1)) ∧
      ∀ other, other ≠ counterKey identity → after.items.get? other = server.items.get? other := by
  intro server after
  rcases (steady.succeeds_iff.mp ⟨wait, count, counted⟩).1 with ⟨window, reaches, _⟩
  rcases @exists_raised _ _ _ identity reaches with ⟨answer, left, raised, outcome⟩
  rw [steady.arrival_raise, outcome] at counted
  have answered : answer = .ok count := (report_eq_ok_iff.mp counted).2
  subst answered
  have same : after.items = left := steady.items_raise.trans (congrArg Prod.snd outcome)
  cases raised with
  | counted number taken held room key others =>
      rw [← same] at key others
      refine ⟨window, number, reaches, held, toNat_ofInt _, ?_, key, others⟩
      exact Server.numberAt?_of_raised key held room

/-- An adapter that gets to the keys says why a text cannot be counted on from. -/
theorem fault_of_raise (reaches : deployment.access entrance = .ok window)
    (taken : deployment.server.manner.refusal? (lifetime window) = none) :
    let number? := deployment.server.numberAt? (counterKey identity)
    let arrival := (deployment.perform entrance (.increment identity)).1
    (number? = none → arrival = .answers none (.error (.reported (.remote unreadableFault)))) ∧
      (number? = some Server.maximum →
        arrival = .answers none (.error (.reported (.remote overflowFault)))) := by
  intro number? arrival
  rcases @exists_raised _ _ _ identity reaches with ⟨answer, after, raised, outcome⟩
  have arrived : arrival = Adapter.report answer :=
    steady.arrival_raise.trans (congrArg Prod.fst outcome)
  rw [arrived]
  cases raised with
  | counted number taken held room key others =>
      have below : number ≠ Server.maximum := Int.ne_of_lt room
      simp [number?, held, below]
  | unreadable taken held => simp [number?, held, report_error]
  | overflown taken held => simp [number?, held, report_error]
  | stray refused incremented => cases taken.symm.trans refused

/-- A refused window is what the client hears of, and the counter is raised all the same. -/
theorem stray_of_refused {line : String} (reaches : deployment.access entrance = .ok window)
    (refused : deployment.server.manner.refusal? (lifetime window) = some line) :
    (deployment.perform entrance (.increment identity)).1 =
        .answers none (.error (.reported (.remote (.ofLine line)))) ∧
      ∃ reply, Incremented deployment.server (counterKey identity)
        (reply, (deployment.perform entrance (.increment identity)).2.server.items) := by
  rcases @exists_raised _ _ _ identity reaches with ⟨answer, after, raised, outcome⟩
  rw [steady.arrival_raise, steady.items_raise, outcome]
  cases raised with
  | counted number taken held room key others => cases taken.symm.trans refused
  | unreadable taken held => cases taken.symm.trans refused
  | overflown taken held => cases taken.symm.trans refused
  | stray same incremented =>
      cases refused.symm.trans same
      exact ⟨report_error _, _, incremented⟩

/-- Where no window is refused, a raise that fails leaves everything as it was. -/
theorem items_of_failed (failed : ¬deployment.Succeeds entrance identity)
    (whole : ∀ window, deployment.access entrance = .ok window →
      deployment.server.Raisable (counterKey identity) →
        deployment.server.manner.refusal? (lifetime window) = none) :
    (deployment.perform entrance (.increment identity)).2.server.items =
      deployment.server.items := by
  rw [steady.items_raise]
  cases access : deployment.access entrance with
  | error impasse => rw [outcome_of_impasse access]
  | ok window =>
      rcases @exists_raised _ _ _ identity access with ⟨answer, after, raised, outcome⟩
      rw [outcome]
      cases raised with
      | counted number taken held room key others =>
          rw [Succeeds, steady.arrival_raise, outcome] at failed
          exact absurd ⟨none, _, report_ok _⟩ failed
      | unreadable taken held => rfl
      | overflown taken held => rfl
      | stray refused incremented =>
          apply incremented.eq_of_not_raisable
          intro raisable
          cases (whole window access raisable).symm.trans refused

end Steady

end Deployment

/-! ## Checks whose raise fails -/

/-- From one point in the course of events to another these operations were performed, they left
these items under the keys, and the server heard of no block. -/
structure GivenUp (operations : List Operation) (left : Table String Item)
    (before after : Timeline Deployment) : Prop where
  calls : ∃ made, after.calls = before.calls ++ made ∧ made.map Prod.snd = operations
  items : after.contents.server.items = left
  unblocked : before.contents.server.Received
    (fun command => ∀ subject value once lifetime,
      command ≠ .set (blockedKey subject) value once lifetime) after.contents.server

namespace GivenUp

variable {before between after : Timeline Deployment} {earlier later : List Operation}
  {left last : Table String Item}

theorem of_call {operation : Operation} {deadline : Option Instant}
    {reception : Reception operation.Result} (kept : operation ≠ .close)
    (unblocking : ∀ identity span, operation ≠ .block identity span)
    (called : before.call (Deployment.store entrance) deadline operation = (reception, after)) :
    GivenUp [operation] (before.contents.perform entrance operation).2.server.items before
      after := by
  have footprint := Timeline.footprint_of_call called
  have contents : after.contents = (before.contents.perform entrance operation).2 :=
    footprint.contents
  constructor
  · exact ⟨[(before.now, operation)], footprint.calls, rfl⟩
  · rw [contents]
  · rw [contents]
    exact unblocked_of_perform kept unblocking

theorem trans (first : GivenUp earlier left before between)
    (second : GivenUp later last between after) :
    GivenUp (earlier ++ later) last before after where
  calls := by
    rcases first.calls with ⟨made, calls, rfl⟩
    rcases second.calls with ⟨more, moreCalls, rfl⟩
    exact ⟨made ++ more, by rw [moreCalls, calls, List.append_assoc], List.map_append⟩
  items := second.items
  unblocked := first.unblocked.trans second.unblocked

end GivenUp

variable {check : Check} {deadline : Option Instant} {timeline after : Timeline Deployment}
  {reception : Reception Decision}

/-- A check whose raise fails is given up with its failure. -/
theorem runFrom_count_of_failed (failed : ¬timeline.contents.Succeeds entrance check.identity)
    (ran : check.runFrom (Deployment.store entrance) deadline .count timeline =
      (reception, after)) :
    GivenUp [.increment check.identity]
        (timeline.contents.perform entrance (.increment check.identity)).2.server.items
        timeline after ∧
      ∀ wait failure, (timeline.contents.perform entrance (.increment check.identity)).1 =
        .answers wait (.error failure) → reception = .answered (.error failure) := by
  have kept : Operation.increment check.identity ≠ .close := nofun
  rcases called : timeline.call (Deployment.store entrance) deadline
    (.increment check.identity) with ⟨heard, counted⟩
  have unsuccessful : ∀ count, heard ≠ .answered (.ok count) := by
    rintro count rfl
    exact failed ⟨none, count, ((call_eq_ok_iff kept).mp called).1⟩
  rcases heard.failed?_or_ok Decision with ⟨failing, given⟩ | ⟨count, success⟩
  · rw [Check.runFrom_of_failed .count called given] at ran
    cases ran
    refine ⟨.of_call kept nofun called, ?_⟩
    intro wait failure failure_eq
    rcases Deployment.reported_of_perform kept failure_eq with ⟨rfl, _⟩
    rw [call_of_answers failure_eq] at called
    cases called
    exact (Option.some.inj given).symm
  · exact absurd success (unsuccessful count)

/-- A service that finds a client free and cannot count it reports the failure and does nothing
else. Where it does not get to the keys, it finds that out in the lookup. -/
theorem decideOn_of_failed {service : Service} {address token : String}
    (steady : timeline.contents.Steady)
    (free : timeline.contents.server.items.get? (blockedKey (.resolve address token)) = none)
    (failed : ¬timeline.contents.Succeeds entrance (.resolve address token)) :
    let identity := Identity.resolve address token
    let raise := timeline.contents.perform entrance (.increment identity)
    let outcome := service.decideOn (Deployment.store entrance) address token timeline
    (GivenUp [.isBlocked identity] timeline.contents.server.items timeline outcome.2 ∨
      GivenUp [.isBlocked identity, .increment identity] raise.2.server.items timeline
        outcome.2) ∧
      ∀ wait failure, raise.1 = .answers wait (.error failure) →
        outcome.1 = .answered (.error failure) := by
  intro identity raise outcome
  let check := service.check address token
  have kept : Operation.isBlocked check.identity ≠ .close := nofun
  have performed := steady.perform entrance kept
  have unchanged := Deployment.outcome_isBlocked_snd timeline.contents entrance check.identity
  rcases ran : check.run (Deployment.store entrance) (service.deadline timeline.now) timeline with
    ⟨reception, after⟩
  have decided : outcome = (service.conclude reception, after) := by
    simp only [outcome, Service.decideOn_eq]
    exact congrArg (fun ran => (service.conclude ran.1, ran.2)) ran
  rw [decided]
  rcases called : timeline.call (Deployment.store entrance) (service.deadline timeline.now)
    (.isBlocked check.identity) with ⟨found, looked⟩
  have lookup : GivenUp [.isBlocked check.identity] timeline.contents.server.items timeline
      looked := by
    rw [← unchanged, ← performed.2.items]
    exact .of_call kept nofun called
  cases access : timeline.contents.access entrance with
  | error impasse =>
      -- Already the lookup fails, and in the same way.
      have arrived := performed.1
      rw [Deployment.outcome_of_impasse access] at arrived
      rcases found.failed?_or_ok Decision with ⟨failing, given⟩ | ⟨result, rfl⟩
      · rw [Check.run, Check.runFrom_of_failed .lookup called given] at ran
        cases ran
        refine ⟨.inl lookup, ?_⟩
        intro wait failure failure_eq
        rw [steady.arrival_raise, Deployment.outcome_of_impasse access] at failure_eq
        have alike := arrived.trans (Impasse.arrival_of_failure failure_eq)
        rw [call_of_answers alike] at called
        cases called
        cases given
        rfl
      · have success := ((call_eq_ok_iff kept).mp called).1
        exact absurd (arrived.symm.trans success) impasse.arrival_ne_ok
  | ok window =>
      have absent : (timeline.contents.perform entrance (.isBlocked check.identity)).1 =
          .answers none (.ok false) := by
        rw [performed.1, Deployment.outcome_of_access access]
        simp only [effect, check, Service.check, free]
        rfl
      rw [call_of_answers absent] at called
      cases called
      rw [Check.run_of_free (call_of_answers absent)] at ran
      let free := afterCall entrance timeline (.isBlocked check.identity)
      have stillSteady : free.contents.Steady := performed.2.steady
      have same : free.contents.outcome entrance (.increment check.identity) =
          timeline.contents.outcome entrance (.increment check.identity) :=
        performed.2.outcome_eq unchanged entrance
      have sameArrival : (free.contents.perform entrance (.increment check.identity)).1 =
          raise.1 := by
        rw [stillSteady.arrival_raise, same]
        exact steady.arrival_raise.symm
      have sameItems : (free.contents.perform entrance (.increment check.identity)).2.server.items =
          raise.2.server.items := by
        rw [stillSteady.items_raise, same]
        exact steady.items_raise.symm
      have stillFailed : ¬free.contents.Succeeds entrance check.identity := by
        rwa [Deployment.Succeeds, sameArrival]
      rcases runFrom_count_of_failed stillFailed ran with ⟨given, answered⟩
      rw [sameItems] at given
      refine ⟨.inr (lookup.trans given), ?_⟩
      intro wait failure failure_eq
      rw [answered wait failure (sameArrival.trans failure_eq)]
      rfl

/-! ## All or nothing -/

/-- A raise does all of its work or none. -/
structure Deployment.AllOrNothing (deployment : Deployment) (entrance : Nat) (identity : Identity) :
    Prop where
  /-- It succeeds exactly if the adapter gets to the keys and the counter is a number that can be
  raised, or absent. -/
  succeeds : deployment.Succeeds entrance identity ↔
    (∃ window, deployment.access entrance = .ok window) ∧
      deployment.server.Raisable (counterKey identity)
  /-- Then the key holds the next number, the answer is that number modulo `2 ^ 64`, only a new
  counter is given a lifetime, and no other key is touched. -/
  counted : ∀ wait count,
    (deployment.perform entrance (.increment identity)).1 = .answers wait (.ok count) →
    let server := deployment.server
    let after := (deployment.perform entrance (.increment identity)).2.server
    ∃ window number, deployment.access entrance = .ok window ∧
      server.numberAt? (counterKey identity) = some number ∧
      (count.toNat : Int) = (number + 1) % 2 ^ 64 ∧
      after.numberAt? (counterKey identity) = some (number + 1) ∧
      after.items.get? (counterKey identity) = some (raisedItem window server.now
        (server.items.get? (counterKey identity)) (number + 1)) ∧
      ∀ other, other ≠ counterKey identity → after.items.get? other = server.items.get? other
  /-- If it fails, everything is left as it was. -/
  undone : ¬deployment.Succeeds entrance identity →
    (deployment.perform entrance (.increment identity)).2.server.items = deployment.server.items

theorem Deployment.Steady.allOrNothing_iff {deployment : Deployment} (steady : deployment.Steady)
    {entrance : Nat} {identity : Identity} :
    deployment.AllOrNothing entrance identity ↔
      ∀ window, deployment.access entrance = .ok window →
        deployment.server.Raisable (counterKey identity) →
          deployment.server.manner.refusal? (lifetime window) = none := by
  constructor
  · intro whole window reaches raisable
    rcases (steady.succeeds_iff.mp (whole.succeeds.mpr ⟨⟨window, reaches⟩, raisable⟩)).1 with
      ⟨told, access, taken⟩
    cases reaches.symm.trans access
    exact taken
  · intro taken
    refine ⟨?_, fun _ _ => steady.counted_of_raise, fun failed => ?_⟩
    · rw [steady.succeeds_iff]
      constructor
      · rintro ⟨⟨window, reaches, _⟩, raisable⟩
        exact ⟨⟨window, reaches⟩, raisable⟩
      · rintro ⟨⟨window, reaches⟩, raisable⟩
        exact ⟨⟨window, reaches, taken window reaches raisable⟩, raisable⟩
    · exact steady.items_of_failed failed taken

/-- A raise at a strict server does all of its work or none, whatever lies under the keys, exactly
if the window that the server is told fits 63 bits or there is nothing to be raised. A longer window
is refused, and the counter is raised all the same. Whatever a raise fails for, the check that it
belongs to fails likewise, and sets no block. -/
theorem raise_all_or_nothing_iff {deployment : Deployment} (steady : deployment.Steady)
    (strict : deployment.server.manner = .strict) (entrance : Nat) (identity : Identity) :
    let server := deployment.server
    let key := counterKey identity
    let raise := deployment.perform entrance (.increment identity)
    let after := raise.2.server.items
    (deployment.AllOrNothing entrance identity ↔
      ∀ window, deployment.access entrance = .ok window → server.Raisable key →
        (lifetime window).toNat < 2 ^ 63) ∧
    (∀ window, deployment.access entrance = .ok window → (lifetime window).toNat < 2 ^ 63 →
      (server.numberAt? key = none →
        raise.1 = .answers none (.error (.reported (.remote unreadableFault)))) ∧
      (server.numberAt? key = some Server.maximum →
        raise.1 = .answers none (.error (.reported (.remote overflowFault))))) ∧
    (∀ window, deployment.access entrance = .ok window → 2 ^ 63 ≤ (lifetime window).toNat →
      raise.1 = .answers none (.error (.reported (.remote unreadableFault))) ∧
      (∀ number, server.numberAt? key = some number → number ≠ Server.maximum →
        after.get? key = some (strayItem (server.items.get? key) (number + 1))) ∧
      (¬server.Raisable key → after = server.items) ∧
      ∀ other, other ≠ key → after.get? other = server.items.get? other) ∧
    (¬deployment.Succeeds entrance identity →
      (∀ (check : Check) deadline timeline, check.identity = identity →
        timeline.contents = deployment →
        let ended := check.runFrom (Deployment.store entrance) deadline .count timeline
        GivenUp [.increment identity] after timeline ended.2 ∧
          ∀ wait failure, raise.1 = .answers wait (.error failure) →
            ended.1 = .answered (.error failure)) ∧
      ∀ (service : Service) address token timeline, Identity.resolve address token = identity →
        timeline.contents = deployment → server.items.get? (blockedKey identity) = none →
        let outcome := service.decideOn (Deployment.store entrance) address token timeline
        (GivenUp [.isBlocked identity] server.items timeline outcome.2 ∨
          GivenUp [.isBlocked identity, .increment identity] after timeline outcome.2) ∧
        ∀ wait failure, raise.1 = .answers wait (.error failure) →
          outcome.1 = .answered (.error failure)) := by
  intro server key raise after
  have taken_iff (window : Duration) :
      server.manner.refusal? (lifetime window) = none ↔ (lifetime window).toNat < 2 ^ 63 := by
    rw [strict]
    exact refusal?_strict_eq_none_iff
  refine ⟨?_, ?_, ?_, fun failed => ⟨?_, ?_⟩⟩
  · rw [steady.allOrNothing_iff]
    constructor
    · intro taken window reaches raisable
      exact (taken_iff window).mp (taken window reaches raisable)
    · intro fits window reaches raisable
      exact (taken_iff window).mpr (fits window reaches raisable)
  · intro window reaches fits
    exact steady.fault_of_raise reaches ((taken_iff window).mpr fits)
  · intro window reaches long
    have refused : server.manner.refusal? (lifetime window) =
        some "ERR value is not an integer or out of range" := by
      rw [strict]
      exact Manner.refusal?_strict_of_long long
    rcases steady.stray_of_refused reaches refused with ⟨answered, reply, incremented⟩
    refine ⟨answered, fun number held room => ?_, fun fixed => ?_, fun other differs => ?_⟩
    · exact incremented.get?_of_number held room
    · exact incremented.eq_of_not_raisable fixed
    · exact incremented.others differs
  · rintro check deadline timeline rfl rfl ended
    exact runFrom_count_of_failed failed rfl
  · rintro service address token timeline rfl rfl free
    exact decideOn_of_failed steady free failed

/-- A server where another program counted one client below zero, another up to the end, and wrote a
number for the third as no server writes it. -/
def foreign : Deployment where
  route := .reachable
  server := ((Server.new.put (counterKey (.ip "10.0.0.1")) "-1").put (counterKey (.ip "10.0.0.2"))
    "9223372036854775807").put (counterKey (.ip "10.0.0.3")) "007"
  adapters := [⟨⟨"10.0.0.9", 6379, none, none, 0⟩, .ofSeconds 1, .connected .fresh⟩]

theorem foreign_steady : foreign.Steady where
  unscripted := rfl
  settled := by
    intro adapter member
    rw [List.mem_singleton.mp member]
    exact fun _ => rfl

/-- The first client is counted as zero, the second is refused and not blocked, and the third hears
of what lies under its key. -/
theorem raise_all_or_nothing_iff_of_foreign :
    let service := Service.mk ⟨10, 10, .ofSeconds 300⟩ none
    let timeline := Timeline.start .origin foreign
    let refused := service.decideOn (Deployment.store 0) "10.0.0.2" "" timeline
    (foreign.perform 0 (.increment (.ip "10.0.0.1"))).2.server.numberAt?
        (counterKey (.ip "10.0.0.1")) = some 0 ∧
      refused.1 = .answered (.error (.reported (.remote overflowFault))) ∧
      refused.2.contents.server.items = foreign.server.items ∧
      (foreign.perform 0 (.increment (.ip "10.0.0.3"))).1 =
        .answers none (.error (.reported (.remote unreadableFault))) := by
  intro service timeline refused
  have negative : foreign.server.numberAt? (counterKey (.ip "10.0.0.1")) = some (-1) := by
    decide +kernel
  have largest : foreign.server.numberAt? (counterKey (.ip "10.0.0.2")) =
      some Server.maximum := by decide +kernel
  have padded : foreign.server.numberAt? (counterKey (.ip "10.0.0.3")) = none := by
    decide +kernel
  have unblocked : foreign.server.items.get? (blockedKey (.ip "10.0.0.2")) = none := by
    decide +kernel
  have reaches : foreign.access 0 = .ok (.ofSeconds 1) := rfl
  have fits : (lifetime (.ofSeconds 1)).toNat < 2 ^ 63 := by decide
  have whole {identity : Identity} : ∀ window, foreign.access 0 = .ok window →
      foreign.server.Raisable (counterKey identity) → (lifetime window).toNat < 2 ^ 63 := by
    intro window access _
    cases reaches.symm.trans access
    exact fits
  have turnedAway : refused.1 = .answered (.error (.reported (.remote overflowFault))) ∧
      refused.2.contents.server.items = foreign.server.items := by
    rcases raise_all_or_nothing_iff foreign_steady rfl 0 (.ip "10.0.0.2") with
      ⟨allOrNothing, faults, _, givenUp⟩
    have failed : ¬foreign.Succeeds 0 (.ip "10.0.0.2") := by
      intro success
      rcases ((allOrNothing.mpr whole).succeeds.mp success).2 with ⟨number, held, below⟩
      exact below (Option.some.inj (held.symm.trans largest))
    have faulty := (faults _ reaches fits).2 largest
    have unchanged := (allOrNothing.mpr whole).undone failed
    rcases (givenUp failed).2 service "10.0.0.2" "" timeline rfl rfl unblocked with
      ⟨looked | raised, answered⟩
    · exact ⟨answered none _ faulty, looked.items⟩
    · exact ⟨answered none _ faulty, raised.items.trans unchanged⟩
  refine ⟨?_, turnedAway.1, turnedAway.2, ?_⟩
  · have allOrNothing :=
      (raise_all_or_nothing_iff foreign_steady rfl 0 (.ip "10.0.0.1")).1.mpr whole
    rcases allOrNothing.succeeds.mpr ⟨⟨_, reaches⟩, -1, negative, by decide⟩ with
      ⟨wait, count, success⟩
    rcases allOrNothing.counted wait count success with ⟨_, number, _, held, _, after, _⟩
    cases negative.symm.trans held
    exact after
  · have faults := (raise_all_or_nothing_iff foreign_steady rfl 0 (.ip "10.0.0.3")).2.1
    exact (faults _ reaches fits).1 padded

/-- An empty server and an adapter with the shortest window that is refused. -/
def overlong : Deployment where
  route := .reachable
  server := .new
  adapters := [⟨⟨"localhost", 6379, none, none, 0⟩,
    (Settings.windowed 9223372036854775808).window, .connected .fresh⟩]

/-- The window is accepted as a setting. With it the first raise of a counter fails and leaves a
counter behind. -/
theorem raise_in_part_of_overlong :
    let raise := overlong.perform 0 (.increment (.ip "192.168.1.1"))
    (Settings.windowed 9223372036854775808).validate = .ok () ∧
      raise.1 = .answers none (.error (.reported (.remote unreadableFault))) ∧
      raise.2.server.items.get? "rate_limit:counter:ip:192.168.1.1" = some ⟨"1", none, none⟩ ∧
      ¬overlong.AllOrNothing 0 (.ip "192.168.1.1") := by
  intro raise
  have steady : overlong.Steady := by
    refine ⟨rfl, fun adapter member => ?_⟩
    rw [List.mem_singleton.mp member]
    exact fun _ => rfl
  have valid := @Settings.validate_windowed 9223372036854775808 (by decide)
  have reaches : overlong.access 0 = .ok (Settings.windowed 9223372036854775808).window := rfl
  have refused : overlong.server.manner.refusal?
      (lifetime (Settings.windowed 9223372036854775808).window) =
        some "ERR value is not an integer or out of range" := by
    decide +kernel
  have absent : overlong.server.numberAt? "rate_limit:counter:ip:192.168.1.1" = some 0 := rfl
  rcases @Deployment.Steady.stray_of_refused _ _ _ (.ip "192.168.1.1") steady _ reaches refused with
    ⟨answered, reply, incremented⟩
  refine ⟨valid, answered, incremented.get?_of_number absent (by decide), ?_⟩
  rw [steady.allOrNothing_iff]
  intro taken
  cases (taken _ reaches ⟨0, absent, by decide⟩).symm.trans refused

end AdmissionControl.Remote

import AdmissionControl.Proofs.Admission.Course
import AdmissionControl.Proofs.Store.Agreement

/-!
# Appeals one after another

Clients ask for admission one after another over one store in memory, each at its own time and from
a service of its own. A service that has the store for itself decides at once, so an appeal is one
step (`Check.Ruling`), and a list of appeals is a run.

What a run has made of one identity is told by its counter and its block (`Memory.Standing`).
Appeals of other identities leave both alone.
-/

namespace AdmissionControl

/-- A client that asks a service for admission at a point in time. -/
structure Appeal where
  time : Instant
  service : Service
  address : String
  token : String

namespace Appeal

def check (appeal : Appeal) : Check :=
  appeal.service.check appeal.address appeal.token

/-- What comes of an appeal, and the course of events after it. -/
def outcome (appeal : Appeal) (timeline : Timeline Memory) :
    Completion Decision × Timeline Memory :=
  appeal.service.decideOn Memory.store appeal.address appeal.token (timeline.moveTo appeal.time)

end Appeal

/-- The course of events after some appeals. -/
def Timeline.afterAppeals (timeline : Timeline Memory) (appeals : List Appeal) : Timeline Memory :=
  appeals.foldl (fun timeline appeal => (appeal.outcome timeline).2) timeline

namespace Timeline

variable {timeline : Timeline Memory} {appeal : Appeal} {appeals more : List Appeal}

@[simp]
theorem afterAppeals_cons :
    timeline.afterAppeals (appeal :: appeals) = (appeal.outcome timeline).2.afterAppeals appeals :=
  rfl

theorem afterAppeals_append :
    timeline.afterAppeals (appeals ++ more) = (timeline.afterAppeals appeals).afterAppeals more :=
  List.foldl_append ..

/-- A point of the course of events: what the store holds, and the time. -/
structure At (timeline : Timeline Memory) (memory : Memory) (now : Instant) : Prop where
  contents : timeline.contents = memory
  now : timeline.now = now

/-- A store in memory answers every call at once, whatever the deadline. -/
theorem At.call {memory : Memory} {now : Instant} {operation : Operation}
    {answer : Answer operation.Result} (stands : timeline.At memory now) (deadline : Option Instant)
    (answered : (memory.perform now operation).1 = answer) :
    ∃ after, timeline.call Memory.store deadline operation = (.answered answer, after) ∧
      after.At (memory.perform now operation).2 now := by
  rcases stands with ⟨rfl, rfl⟩
  exact ⟨_, Timeline.call_memory deadline answered, rfl, rfl⟩

end Timeline

/-! ## One appeal -/

namespace Memory

variable {memory : Memory} {now : Instant} {identity : Identity} {span : Duration}

theorem answer_isBlocked (reachable : memory.obstacle? = none) :
    (memory.perform now (.isBlocked identity)).1 = .ok (memory.blocked now identity) := by
  rw [perform, guarded_eq_of_open reachable]

theorem answer_increment (reachable : memory.obstacle? = none)
    (fits : (Operation.increment identity).Fits memory.window now) :
    (memory.perform now (.increment identity)).1 = .ok (memory.raised now identity).count := by
  rw [perform, guarded_eq_of_open reachable, increment_of_fits fits]

theorem answer_block (reachable : memory.obstacle? = none)
    (fits : (Operation.block identity span).Fits memory.window now) :
    (memory.perform now (.block identity span)).1 = .ok () := by
  rw [perform, guarded_eq_of_open reachable, block_of_fits fits]

/-- A lookup leaves the store alone. -/
theorem perform_isBlocked_snd : (memory.perform now (.isBlocked identity)).2 = memory :=
  guarded_snd (fun after => after = memory) rfl rfl

end Memory

namespace Check

/-- What a check comes to that has a store in memory for itself, and the store after it. -/
inductive Ruling (check : Check) (memory : Memory) (now : Instant) : Decision → Memory → Prop
  | blocked (blocked : memory.blocked now check.identity = true) :
      Ruling check memory now (.ofBlocked check.identity check.limit) memory
  | within (free : memory.blocked now check.identity = false)
      (within : (memory.raised now check.identity).count ≤ check.limit) :
      Ruling check memory now
        (.ofCount check.identity check.limit (memory.raised now check.identity).count)
        (memory.perform now (.increment check.identity)).2
  | beyond (free : memory.blocked now check.identity = false)
      (beyond : ¬(memory.raised now check.identity).count ≤ check.limit) :
      Ruling check memory now
        (.ofCount check.identity check.limit (memory.raised now check.identity).count)
        ((memory.perform now (.increment check.identity)).2.perform now
          (.block check.identity check.blockSpan)).2

/-- The clock can hold the ends of the entries that a check may make. -/
def Fits (check : Check) (window : Duration) (now : Instant) : Prop :=
  (now.shift window).nanoseconds < Instant.horizon ∧
    (now.shift check.blockSpan).nanoseconds < Instant.horizon

instance (check : Check) (window : Duration) (now : Instant) : Decidable (check.Fits window now) :=
  inferInstanceAs (Decidable (_ ∧ _))

variable {check : Check} {timeline : Timeline Memory}

theorem exists_ruling {memory : Memory} {now : Instant} (stands : timeline.At memory now)
    (deadline : Option Instant) (reachable : memory.obstacle? = none)
    (fits : check.Fits memory.window now) :
    ∃ decision after,
      check.Course Memory.store deadline timeline (.answered (.ok decision)) after ∧
      check.Ruling memory now decision after.contents := by
  rcases stands.call deadline (Memory.answer_isBlocked reachable) with ⟨looked, lookup, found⟩
  rw [Memory.perform_isBlocked_snd] at found
  cases blocked : memory.blocked now check.identity with
  | true =>
      rw [blocked] at lookup
      refine ⟨_, looked, .blocked lookup, ?_⟩
      rw [found.contents]
      exact .blocked blocked
  | false =>
      rw [blocked] at lookup
      rcases found.call deadline (Memory.answer_increment reachable fits.1) with
        ⟨counted, raise, tallied⟩
      by_cases within : (memory.raised now check.identity).count ≤ check.limit
      · refine ⟨_, counted, .within lookup raise within, ?_⟩
        rw [tallied.contents]
        exact .within blocked within
      · have stillReachable : (memory.perform now (.increment check.identity)).2.obstacle? = none :=
          (Memory.obstacle?_perform (check.operation_ne_close .count) fits.1).trans reachable
        have announced : (counted.logAll (check.announcement (.block
            (memory.raised now check.identity).count))).At _ now :=
          ⟨tallied.contents, tallied.now⟩
        rcases announced.call deadline (Memory.answer_block stillReachable fits.2) with
          ⟨set, block, ended⟩
        refine ⟨_, set, .beyond lookup raise within block, ?_⟩
        rw [ended.contents]
        exact .beyond blocked within

end Check

/-! ## What stands of an identity -/

namespace Memory

/-- What a store that can be reached holds for an identity at a point in time: as much as is left of
a counter and of a block. -/
structure Standing (identity : Identity) (window : Duration) (memory : Memory) (now : Instant)
    (counter? : Option Counter) (ending? : Option Instant) : Prop where
  reachable : memory.obstacle? = none
  sameWindow : memory.window = window
  counter : memory.counterAt? now identity = counter?.filter fun counter => now < counter.expiry
  block : memory.blockAt? now identity = ending?.filter fun ending => now < ending

namespace Standing

variable {identity : Identity} {window : Duration} {memory after : Memory} {now point : Instant}
  {counter : Counter} {counter? : Option Counter} {ending : Instant} {ending? : Option Instant}

theorem later (standing : Standing identity window memory now counter? ending?)
    (notBefore : now ≤ point) : Standing identity window memory point counter? ending? where
  reachable := standing.reachable
  sameWindow := standing.sameWindow
  counter := by
    rw [counterAt?_later notBefore, standing.counter]
    exact (Instant.filter_alive_later counter? Counter.expiry notBefore).symm
  block := by
    rw [blockAt?_later notBefore, standing.block]
    exact (Instant.filter_alive_later ending? id notBefore).symm

theorem of_agrees (standing : Standing identity window memory now counter? ending?)
    (agrees : after.AgreesOn identity now memory) :
    Standing identity window after now counter? ending? where
  reachable := agrees.obstacle.trans standing.reachable
  sameWindow := agrees.window.trans standing.sameWindow
  counter := agrees.counter.trans standing.counter
  block := agrees.block.trans standing.block

/-- Nothing is left of a block that is over. -/
theorem unblocked (standing : Standing identity window memory now counter? (some ending))
    (ended : ending ≤ now) : Standing identity window memory now counter? none := by
  have lapsed : ¬now < ending := Nat.not_lt_of_le ended
  refine { standing with block := ?_ }
  rw [standing.block]
  simp [Option.filter_some, lapsed]

/-- Nothing is left of a counter whose window is over. -/
theorem uncounted (standing : Standing identity window memory now (some counter) ending?)
    (ended : counter.expiry ≤ now) : Standing identity window memory now none ending? := by
  have lapsed : ¬now < counter.expiry := Nat.not_lt_of_le ended
  refine { standing with counter := ?_ }
  rw [standing.counter]
  simp [Option.filter_some, lapsed]

theorem blocked_iff (standing : Standing identity window memory now counter? (some ending)) :
    memory.blocked now identity = true ↔ now < ending := by
  rw [blocked_eq_isSome, standing.block]
  by_cases alive : now < ending <;> simp [alive, Option.filter_some]

theorem free (standing : Standing identity window memory now counter? none) :
    memory.blocked now identity = false := by
  rw [blocked_eq_isSome, standing.block]
  rfl

theorem of_free (standing : Standing identity window memory now counter? ending?)
    (free : memory.blocked now identity = false) :
    Standing identity window memory now counter? none := by
  refine { standing with block := ?_ }
  rw [blocked_eq_isSome, Option.isSome_eq_false_iff, Option.isNone_iff_eq_none] at free
  rw [free]
  rfl

theorem raised_of_alive (standing : Standing identity window memory now (some counter) ending?)
    (alive : now < counter.expiry) :
    memory.raised now identity = ⟨counter.count + 1, counter.expiry⟩ := by
  simp [raised, standing.counter, alive, Option.filter_some]

/-- A raise puts the counter it leaves in the place of the one before. -/
theorem increment (standing : Standing identity window memory now counter? ending?)
    (fits : (Operation.increment identity).Fits window now) :
    Standing identity window (memory.perform now (.increment identity)).2 now
      (some (memory.raised now identity)) ending? where
  reachable := by
    have kept : Operation.increment identity ≠ .close := nofun
    rw [← standing.sameWindow] at fits
    exact (obstacle?_perform kept fits).trans standing.reachable
  sameWindow := perform_window.trans standing.sameWindow
  counter := by
    rw [← standing.sameWindow] at fits
    rw [perform, guarded_eq_of_open standing.reachable]
    exact counterAt?_increment fits
  block := by
    rw [perform, guarded_eq_of_open standing.reachable, blockAt?_increment (Nat.le_refl _)]
    exact standing.block

theorem set (standing : Standing identity window memory now counter? ending?) {span : Duration}
    (fits : (Operation.block identity span).Fits window now) :
    Standing identity window (memory.perform now (.block identity span)).2 now counter?
      (some (now.shift span)) where
  reachable := by
    have kept : Operation.block identity span ≠ .close := nofun
    exact (obstacle?_perform kept fits).trans standing.reachable
  sameWindow := perform_window.trans standing.sameWindow
  counter := by
    rw [perform, guarded_eq_of_open standing.reachable, counterAt?_block (Nat.le_refl _)]
    exact standing.counter
  block := by
    rw [perform, guarded_eq_of_open standing.reachable]
    exact blockAt?_block fits

theorem raised_of_none (standing : Standing identity window memory now none ending?) :
    memory.raised now identity = ⟨1, now.shift window⟩ := by
  simp [raised, standing.counter, standing.sameWindow]

end Standing

end Memory

namespace Check.Ruling

variable {check : Check} {identity : Identity} {window : Duration} {memory after : Memory}
  {now : Instant} {decision : Decision} {counter? : Option Counter} {ending? : Option Instant}

/-- A blocked client is denied, and the store is left alone. -/
theorem of_blocked (ruling : check.Ruling memory now decision after)
    (blocked : memory.blocked now check.identity = true) :
    decision = .ofBlocked check.identity check.limit ∧ after = memory := by
  cases ruling with
  | blocked _ => exact ⟨rfl, rfl⟩
  | within free within => exact absurd (blocked.symm.trans free) nofun
  | beyond free beyond => exact absurd (blocked.symm.trans free) nofun

/-- What is decided for one identity changes nothing of another. -/
theorem agreesOn (ruling : check.Ruling memory now decision after)
    (fits : check.Fits memory.window now) (other : check.identity ≠ identity) :
    after.AgreesOn identity now memory := by
  have raised : (memory.perform now (.increment check.identity)).2.AgreesOn identity now memory :=
    (Memory.AgreesOn.refl memory).perform_other rfl other fits.1
  cases ruling with
  | blocked _ => exact .refl memory
  | within free within => exact raised
  | beyond free beyond => exact raised.perform_other rfl other fits.2

/-- A client that is counted within its limit is let through. -/
theorem of_within (ruling : check.Ruling memory now decision after)
    (standing : memory.Standing check.identity window now counter? none)
    (fits : check.Fits window now)
    (within : (memory.raised now check.identity).count ≤ check.limit) :
    decision = .ofCount check.identity check.limit (memory.raised now check.identity).count ∧
      after.Standing check.identity window now (some (memory.raised now check.identity)) none := by
  cases ruling with
  | blocked blocked => exact absurd (standing.free.symm.trans blocked) nofun
  | within _ _ => exact ⟨rfl, standing.increment fits.1⟩
  | beyond _ beyond => exact absurd within beyond

/-- A client that is counted beyond its limit is denied and blocked from now on. -/
theorem of_beyond (ruling : check.Ruling memory now decision after)
    (standing : memory.Standing check.identity window now counter? none)
    (fits : check.Fits window now)
    (beyond : ¬(memory.raised now check.identity).count ≤ check.limit) :
    decision = .ofCount check.identity check.limit (memory.raised now check.identity).count ∧
      after.Standing check.identity window now (some (memory.raised now check.identity))
        (some (now.shift check.blockSpan)) := by
  cases ruling with
  | blocked blocked => exact absurd (standing.free.symm.trans blocked) nofun
  | within _ within => exact absurd within beyond
  | beyond _ _ => exact ⟨rfl, (standing.increment fits.1).set fits.2⟩

end Check.Ruling

/-! ## Appeals -/

namespace Appeal

variable {appeal : Appeal} {timeline : Timeline Memory} {identity : Identity} {window : Duration}
  {now ending : Instant} {counter : Counter} {counter? : Option Counter} {ending? : Option Instant}

/-- At a store that can be reached an appeal is always decided. -/
theorem ruling (reachable : timeline.contents.obstacle? = none)
    (fits : appeal.check.Fits timeline.contents.window appeal.time) :
    ∃ decision, (appeal.outcome timeline).1 = .answered (.ok decision) ∧
      appeal.check.Ruling timeline.contents appeal.time decision
        (appeal.outcome timeline).2.contents := by
  have moved : (timeline.moveTo appeal.time).At timeline.contents appeal.time := ⟨rfl, rfl⟩
  rcases Check.exists_ruling moved (appeal.service.deadline appeal.time) reachable fits with
    ⟨decision, after, course, ruling⟩
  have outcome : appeal.outcome timeline = (.answered (.ok decision), after) :=
    Service.decideOn_ok_iff.mpr course
  rw [outcome]
  exact ⟨decision, rfl, ruling⟩

theorem standing_of_other
    (standing : timeline.contents.Standing identity window now counter? ending?)
    (notBefore : now ≤ appeal.time) (fits : appeal.check.Fits window appeal.time)
    (other : appeal.check.identity ≠ identity) :
    (appeal.outcome timeline).2.contents.Standing identity window appeal.time counter? ending? := by
  rw [← standing.sameWindow] at fits
  rcases ruling standing.reachable fits with ⟨decision, _, ruled⟩
  exact (standing.later notBefore).of_agrees (ruled.agreesOn fits other)

theorem outcome_of_blocked
    (standing : timeline.contents.Standing appeal.check.identity window now counter? (some ending))
    (notBefore : now ≤ appeal.time) (fits : appeal.check.Fits window appeal.time)
    (inTime : appeal.time < ending) :
    (appeal.outcome timeline).1 =
        .answered (.ok (.ofBlocked appeal.check.identity appeal.check.limit)) ∧
      (appeal.outcome timeline).2.contents = timeline.contents := by
  rw [← standing.sameWindow] at fits
  rcases ruling standing.reachable fits with ⟨decision, decided, ruled⟩
  rcases ruled.of_blocked ((standing.later notBefore).blocked_iff.mpr inTime) with ⟨rfl, same⟩
  exact ⟨decided, same⟩

theorem outcome_of_within
    (standing : timeline.contents.Standing appeal.check.identity window appeal.time counter? none)
    (fits : appeal.check.Fits window appeal.time)
    (raised : timeline.contents.raised appeal.time appeal.check.identity = counter)
    (within : counter.count ≤ appeal.check.limit) :
    (appeal.outcome timeline).1 =
        .answered (.ok (.ofCount appeal.check.identity appeal.check.limit counter.count)) ∧
      (appeal.outcome timeline).2.contents.Standing appeal.check.identity window appeal.time
        (some counter) none := by
  subst raised
  have fitsHere := fits
  rw [← standing.sameWindow] at fitsHere
  rcases ruling standing.reachable fitsHere with ⟨decision, decided, ruled⟩
  rcases ruled.of_within standing fits within with ⟨rfl, stands⟩
  exact ⟨decided, stands⟩

theorem outcome_of_beyond
    (standing : timeline.contents.Standing appeal.check.identity window appeal.time counter? none)
    (fits : appeal.check.Fits window appeal.time)
    (raised : timeline.contents.raised appeal.time appeal.check.identity = counter)
    (beyond : ¬counter.count ≤ appeal.check.limit) :
    (appeal.outcome timeline).1 =
        .answered (.ok (.ofCount appeal.check.identity appeal.check.limit counter.count)) ∧
      (appeal.outcome timeline).2.contents.Standing appeal.check.identity window appeal.time
        (some counter) (some (appeal.time.shift appeal.check.blockSpan)) := by
  subst raised
  have fitsHere := fits
  rw [← standing.sameWindow] at fitsHere
  rcases ruling standing.reachable fitsHere with ⟨decision, decided, ruled⟩
  rcases ruled.of_beyond standing fits beyond with ⟨rfl, stands⟩
  exact ⟨decided, stands⟩

end Appeal

end AdmissionControl

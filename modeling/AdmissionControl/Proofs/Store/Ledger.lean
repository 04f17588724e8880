import AdmissionControl.Proofs.Store.Headroom
import Mathlib.Logic.Function.Basic

/-!
# A store that never sweeps

A `Ledger` keeps for each identity the last counter and the last block that were written for it, and
forgets neither. An entry whose end has been reached counts as absent wherever it is read, and that
is all there is to time.

The store in memory tests ends in different places: a raise relies on the sweep before it, a lookup
tests on its own, and a reset does not test at all. `Memory.sweeps_unobservable` says that none of
this can be seen from outside. Its answers are those of the ledger at all times, with or without
additional sweeps.

The counts of a ledger are unbounded, those of the store are machine words. `Memory.Accords` carries
how many raises there is still room for.
-/

namespace AdmissionControl

/-- What may be asked of a store in memory. -/
inductive Query where
  | perform (operation : Operation)
  | count (identity : Identity)

/-- What can be seen of an answer. -/
inductive Finding where
  | blocked (found : Bool)
  | counted (count : Nat)
  | done
  | failed (failure : Failure)

namespace Finding

def ofAnswer : (operation : Operation) → Answer operation.Result → Finding
  | _, .error failure => .failed failure
  | .isBlocked _, .ok found => .blocked found
  | .increment _, .ok count => .counted count.toNat
  | .block _ _, .ok () => .done
  | .reset _, .ok () => .done
  | .ping, .ok () => .done
  | .close, .ok () => .done

end Finding

/-- A store that keeps every entry until it is overwritten or reset. -/
structure Ledger where
  window : Duration
  /-- The count of each identity and its end. -/
  counters : Identity → Option (Nat × Instant)
  blocks : Identity → Option Instant
  closed : Bool

namespace Ledger

def new (window : Duration) : Ledger where
  window
  counters := fun _ => none
  blocks := fun _ => none
  closed := false

/-- The count and the end of the counter of an identity, absent once its end is reached. -/
def counterAt? (ledger : Ledger) (now : Instant) (identity : Identity) : Option (Nat × Instant) :=
  (ledger.counters identity).filter fun counter => now < counter.2

def blockAt? (ledger : Ledger) (now : Instant) (identity : Identity) : Option Instant :=
  (ledger.blocks identity).filter fun expiry => now < expiry

/-- An absent counter begins at one with a new window, any other goes up by one. -/
def increment (ledger : Ledger) (now : Instant) (identity : Identity) : Finding × Ledger :=
  let (count, expiry) := (ledger.counterAt? now identity).getD (0, now.shift ledger.window)
  (.counted (count + 1),
    { ledger with
      counters := Function.update ledger.counters identity (some (count + 1, expiry)) })

def guarded (ledger : Ledger) (performed : Finding × Ledger) : Finding × Ledger :=
  if ledger.closed then (.failed (.reported .storeClosed), ledger) else performed

theorem guarded_of_closed {ledger : Ledger} {performed : Finding × Ledger}
    (closed : ledger.closed = true) :
    ledger.guarded performed = (.failed (.reported .storeClosed), ledger) :=
  if_pos closed

theorem guarded_of_open {ledger : Ledger} {performed : Finding × Ledger}
    (closed : ledger.closed = false) : ledger.guarded performed = performed :=
  if_neg (by simp [closed])

def perform (ledger : Ledger) (now : Instant) : Operation → Finding × Ledger
  | .isBlocked identity =>
      ledger.guarded (.blocked (ledger.blockAt? now identity).isSome, ledger)
  | .increment identity => ledger.guarded (ledger.increment now identity)
  | .block identity span =>
      ledger.guarded (.done,
        { ledger with blocks := Function.update ledger.blocks identity (some (now.shift span)) })
  | .reset identity =>
      ledger.guarded (.done,
        { ledger with counters := Function.update ledger.counters identity none })
  | .ping => ledger.guarded (.done, ledger)
  | .close => (.done, { ledger with closed := true })

def answer (ledger : Ledger) (now : Instant) : Query → Finding × Ledger
  | .perform operation => ledger.perform now operation
  | .count identity =>
      (.counted (((ledger.counterAt? now identity).map Prod.fst).getD 0), ledger)

def findings (ledger : Ledger) : List (Instant × Query) → List Finding
  | [] => []
  | (now, query) :: rest => (ledger.answer now query).1 :: (ledger.answer now query).2.findings rest

end Ledger

namespace Memory

def answer (memory : Memory) (now : Instant) : Query → Finding × Memory
  | .perform operation =>
      (.ofAnswer operation (memory.perform now operation).1, (memory.perform now operation).2)
  | .count identity => (.counted (memory.count now identity).toNat, memory)

/-- A query to a store, or a sweep that nobody asked for. -/
inductive Turn where
  | ask (query : Query)
  | sweep

def findings (memory : Memory) : List (Instant × Turn) → List Finding
  | [] => []
  | (now, .sweep) :: rest => (memory.sweep now).findings rest
  | (now, .ask query) :: rest =>
      (memory.answer now query).1 :: (memory.answer now query).2.findings rest

def asked : List (Instant × Turn) → List (Instant × Query)
  | [] => []
  | (_, .sweep) :: rest => asked rest
  | (now, .ask query) :: rest => (now, query) :: asked rest

end Memory

namespace Query

def raises : Query → Bool
  | .perform (.increment _) => true
  | _ => false

/-- The clock can hold the end of the entry that a query makes. -/
def Fits (window : Duration) (now : Instant) : Query → Prop
  | .perform operation => operation.Fits window now
  | .count _ => True

instance (window : Duration) (now : Instant) : (query : Query) → Decidable (query.Fits window now)
  | .perform operation => inferInstanceAs (Decidable (operation.Fits window now))
  | .count _ => isTrue trivial

end Query

namespace Memory

variable {memory : Memory} {ledger : Ledger} {now point : Instant} {room : Nat}

/-- A store and a ledger hold the same live entries, and so many more raises fit into a count. -/
structure Accords (memory : Memory) (ledger : Ledger) (now : Instant) (room : Nat) : Prop where
  window : ledger.window = memory.window
  closed : ledger.closed = memory.closed
  unspoilt : memory.spoilt = false
  counters : ∀ identity, ledger.counterAt? now identity =
    (memory.counterAt? now identity).map fun counter => (counter.count.toNat, counter.expiry)
  blocks : ∀ identity, ledger.blockAt? now identity = memory.blockAt? now identity
  headroom : memory.Headroom now UInt64.size room

namespace Accords

theorem later (accords : memory.Accords ledger now room) (earlier : now ≤ point) :
    memory.Accords ledger point room where
  window := accords.window
  closed := accords.closed
  unspoilt := accords.unspoilt
  counters := by
    intro identity
    calc
      ledger.counterAt? point identity
        = (ledger.counterAt? now identity).filter fun counter => point < counter.2 :=
          Instant.filter_alive_later _ Prod.snd earlier
      _ = ((memory.counterAt? now identity).filter fun counter => point < counter.expiry).map
            fun counter => (counter.count.toNat, counter.expiry) := by
          rw [accords.counters, Option.filter_map]
          rfl
      _ = _ := by rw [counterAt?_later earlier]
  blocks := by
    intro identity
    calc
      ledger.blockAt? point identity
        = (ledger.blockAt? now identity).filter fun expiry => point < expiry :=
          Instant.filter_alive_later _ id earlier
      _ = memory.blockAt? point identity := by rw [accords.blocks, blockAt?_later earlier]
  headroom := accords.headroom.later earlier

theorem sweep (accords : memory.Accords ledger now room) :
    (memory.sweep now).Accords ledger now room where
  window := accords.window
  closed := accords.closed
  unspoilt := accords.unspoilt
  counters := by
    intro identity
    rw [counterAt?_sweep (Nat.le_refl _)]
    exact accords.counters identity
  blocks := by
    intro identity
    rw [blockAt?_sweep (Nat.le_refl _)]
    exact accords.blocks identity
  headroom := accords.headroom.sweep

theorem fewer {less : Nat} (accords : memory.Accords ledger now room) (within : less ≤ room) :
    memory.Accords ledger now less :=
  { accords with headroom := accords.headroom.fewer within }

/-- While there is room for a raise, a ledger counts on from the word that the store holds. -/
theorem ledger_increment (accords : memory.Accords ledger now (room + 1)) (identity : Identity) :
    ledger.increment now identity =
      (.counted (memory.raised now identity).count.toNat,
        { ledger with
          counters := Function.update ledger.counters identity
            (some ((memory.raised now identity).count.toNat,
              (memory.raised now identity).expiry)) }) := by
  have known := accords.counters identity
  cases live : memory.counterAt? now identity with
  | none =>
      rw [live] at known
      simp only [raised, live, Ledger.increment, known, accords.window]
      rfl
  | some counter =>
      have few := accords.headroom.counted identity counter live
      have next : (counter.count + 1).toNat = counter.count.toNat + 1 :=
        succ_toNat_of_lt (by omega)
      rw [live] at known
      simp only [raised, live, Ledger.increment, known]
      simp only [Option.map_some, Option.getD_some, next]

theorem increment (accords : memory.Accords ledger now (room + 1)) {identity : Identity}
    (fits : (Operation.increment identity).Fits memory.window now) :
    (memory.increment now identity).2.Accords (ledger.increment now identity).2 now room := by
  rw [accords.ledger_increment identity]
  constructor
  · simpa [increment_of_fits fits] using accords.window
  · simpa [increment_of_fits fits] using accords.closed
  · simpa [increment_of_fits fits] using accords.unspoilt
  · intro other
    by_cases same : other = identity
    · subst same
      rw [counterAt?_increment fits]
      simp only [Ledger.counterAt?, Function.update_self]
      rw [Option.filter_some, Option.filter_some]
      split <;> rfl
    · rw [counterAt?_increment_of_ne (Nat.le_refl _) same, ← accords.counters other]
      simp [Ledger.counterAt?, same]
  · intro other
    rw [blockAt?_increment (Nat.le_refl _)]
    exact accords.blocks other
  · exact accords.headroom.increment fits

theorem block (accords : memory.Accords ledger now room) {identity : Identity} {span : Duration}
    (fits : (Operation.block identity span).Fits memory.window now) :
    (memory.block now identity span).2.Accords
      { ledger with blocks := Function.update ledger.blocks identity (some (now.shift span)) }
      now room := by
  constructor
  · simpa [block_of_fits fits] using accords.window
  · simpa [block_of_fits fits] using accords.closed
  · simpa [block_of_fits fits] using accords.unspoilt
  · intro other
    rw [counterAt?_block (Nat.le_refl _)]
    exact accords.counters other
  · intro other
    by_cases same : other = identity
    · subst same
      rw [blockAt?_block fits]
      simp [Ledger.blockAt?]
    · rw [blockAt?_block_of_ne (Nat.le_refl _) same, ← accords.blocks other]
      simp [Ledger.blockAt?, same]
  · exact accords.headroom.of_among fun _ _ live =>
      (counterAt?_block (Nat.le_refl _)).symm.trans live

theorem reset (accords : memory.Accords ledger now room) (identity : Identity) :
    { memory with counters := memory.counters.erase identity }.Accords
      { ledger with counters := Function.update ledger.counters identity none } now room := by
  constructor
  · exact accords.window
  · exact accords.closed
  · exact accords.unspoilt
  · intro other
    by_cases same : other = identity
    · subst same
      simp [Ledger.counterAt?, counterAt?, Table.get?_erase]
    · have known := accords.counters other
      simpa [Ledger.counterAt?, counterAt?, Table.get?_erase, same] using known
  · exact accords.blocks
  · refine accords.headroom.of_among fun other counter live => ?_
    by_cases same : other = identity
    · subst same
      simp [counterAt?, Table.get?_erase] at live
    · simpa [counterAt?, Table.get?_erase, same] using live

theorem obstacle (accords : memory.Accords ledger now room) :
    memory.obstacle? = if ledger.closed then some .storeClosed else none := by
  simp [obstacle?, accords.closed, accords.unspoilt]

/-- A store answers an operation as the ledger does, and accords with it afterwards. -/
theorem perform {operation : Operation}
    (accords : memory.Accords ledger now
      (room + if (Query.perform operation).raises then 1 else 0))
    (fits : operation.Fits memory.window now) :
    Finding.ofAnswer operation (memory.perform now operation).1 =
        (ledger.perform now operation).1 ∧
      (memory.perform now operation).2.Accords (ledger.perform now operation).2 now room := by
  have kept : memory.Accords ledger now room := accords.fewer (Nat.le_add_right _ _)
  by_cases close : operation = .close
  · subst close
    exact ⟨rfl, { kept with
      closed := rfl
      headroom := kept.headroom.of_among fun _ _ live => live }⟩
  have obstacle := accords.obstacle
  cases closed : ledger.closed with
  | true =>
      simp only [closed, if_true] at obstacle
      cases operation with
      | close => exact absurd rfl close
      | _ =>
          simp only [Memory.perform, Ledger.perform, guarded_eq_of_obstacle obstacle,
            Ledger.guarded_of_closed closed]
          exact ⟨rfl, kept⟩
  | false =>
      simp only [closed, Bool.false_eq_true, if_false] at obstacle
      cases operation with
      | close => exact absurd rfl close
      | increment identity =>
          simp only [Memory.perform, Ledger.perform, guarded_eq_of_open obstacle,
            Ledger.guarded_of_open closed]
          refine ⟨?_, accords.increment fits⟩
          simp [accords.ledger_increment identity, increment_of_fits fits, Finding.ofAnswer]
      | block identity span =>
          simp only [Memory.perform, Ledger.perform, guarded_eq_of_open obstacle,
            Ledger.guarded_of_open closed]
          refine ⟨?_, kept.block fits⟩
          simp [block_of_fits fits, Finding.ofAnswer]
      | isBlocked identity =>
          simp only [Memory.perform, Ledger.perform, guarded_eq_of_open obstacle,
            Ledger.guarded_of_open closed]
          exact ⟨by simp [Finding.ofAnswer, blocked_eq_isSome, kept.blocks], kept⟩
      | reset identity =>
          simp only [Memory.perform, Ledger.perform, guarded_eq_of_open obstacle,
            Ledger.guarded_of_open closed]
          exact ⟨rfl, kept.reset identity⟩
      | ping =>
          simp only [Memory.perform, Ledger.perform, guarded_eq_of_open obstacle,
            Ledger.guarded_of_open closed]
          exact ⟨rfl, kept⟩

theorem answer {query : Query}
    (accords : memory.Accords ledger now (room + if query.raises then 1 else 0))
    (fits : query.Fits memory.window now) :
    (memory.answer now query).1 = (ledger.answer now query).1 ∧
      (memory.answer now query).2.Accords (ledger.answer now query).2 now room := by
  cases query with
  | perform operation => exact accords.perform fits
  | count identity =>
      refine ⟨?_, accords⟩
      cases live : memory.counterAt? now identity <;>
        simp [Memory.answer, Ledger.answer, count_eq_live, accords.unspoilt, accords.counters, live]

end Accords

@[simp]
theorem answer_window {query : Query} : (memory.answer now query).2.window = memory.window := by
  cases query with
  | perform operation => exact perform_window
  | count identity => rfl

/-- Every answer of a store that accords with a ledger is the answer of the ledger, whenever the
store is swept in between. -/
theorem Accords.findings {turns : List (Instant × Turn)}
    (accords : memory.Accords ledger now ((asked turns).countP fun query => query.2.raises))
    (late : ∀ turn ∈ turns, now ≤ turn.1)
    (ordered : turns.Pairwise fun first second => first.1 ≤ second.1)
    (fits : ∀ query ∈ asked turns, query.2.Fits memory.window query.1) :
    memory.findings turns = ledger.findings (asked turns) := by
  induction turns generalizing memory ledger now with
  | nil => rfl
  | cons turn rest ih =>
      rcases turn with ⟨time, turn⟩
      have arrived := accords.later (late (time, turn) List.mem_cons_self)
      rcases List.pairwise_cons.mp ordered with ⟨next, onward⟩
      cases turn with
      | sweep => exact ih arrived.sweep next onward fits
      | ask query =>
          simp only [asked, List.countP_cons] at arrived
          have fitsNow : query.Fits memory.window time := fits (time, query) List.mem_cons_self
          rcases arrived.answer fitsNow with ⟨same, after⟩
          simp only [Memory.findings, asked, Ledger.findings, same]
          congr 1
          apply ih after next onward
          intro later member
          rw [answer_window]
          exact fits later (List.mem_cons_of_mem _ member)

theorem accords_new {window : Duration} (few : room < UInt64.size) :
    (new window).Accords (.new window) now room where
  window := rfl
  closed := rfl
  unspoilt := rfl
  counters := fun _ => rfl
  blocks := fun _ => rfl
  headroom := ⟨few, fun _ _ live => nomatch live⟩

theorem asked_map_ask (queries : List (Instant × Query)) :
    asked (queries.map fun query => (query.1, .ask query.2)) = queries := by
  induction queries with
  | nil => rfl
  | cons query rest ih => simp [asked, ih]

/-- The sweeps of a store in memory cannot be seen. Whatever is asked of it at whatever times, its
answers are those of the ledger that never sweeps, and they stay the same when the store is swept at
further points in between. -/
theorem sweeps_unobservable (window : Duration) {queries : List (Instant × Query)}
    (ordered : queries.Pairwise fun first second => first.1 ≤ second.1)
    (fits : ∀ query ∈ queries, query.2.Fits window query.1)
    (few : (queries.countP fun query => query.2.raises) < UInt64.size) :
    (new window).findings (queries.map fun query => (query.1, .ask query.2)) =
        (Ledger.new window).findings queries ∧
      ∀ turns : List (Instant × Turn), asked turns = queries →
        (turns.Pairwise fun first second => first.1 ≤ second.1) →
          (new window).findings turns = (Ledger.new window).findings queries := by
  have agrees (turns : List (Instant × Turn)) (same : asked turns = queries)
      (inOrder : turns.Pairwise fun first second => first.1 ≤ second.1) :
      (new window).findings turns = (Ledger.new window).findings queries := by
    subst same
    have fresh : (new window).Accords (.new window) .origin
        ((asked turns).countP fun query => query.2.raises) := accords_new few
    exact fresh.findings (fun turn _ => Nat.zero_le turn.1.nanoseconds) inOrder fits
  refine ⟨agrees _ (asked_map_ask queries) ?_, agrees⟩
  exact List.pairwise_map.mpr ordered

/-- A counter and a block that are read up to the very end of their time, and then past the closing
of the store. -/
def lastMoments : List (Instant × Query) :=
  [(⟨0⟩, .perform (.increment (.ip "10.0.0.1"))),
    (⟨0⟩, .perform (.block (.token "abc") (.ofSeconds 2))),
    (⟨999999999⟩, .perform (.increment (.ip "10.0.0.1"))),
    (⟨1000000000⟩, .count (.ip "10.0.0.1")),
    (⟨1000000000⟩, .perform (.increment (.ip "10.0.0.1"))),
    (⟨1999999999⟩, .perform (.isBlocked (.token "abc"))),
    (⟨2000000000⟩, .perform (.isBlocked (.token "abc"))),
    (⟨2000000000⟩, .perform .close), (⟨2000000000⟩, .perform .ping)]

theorem sweeps_unobservable_at_lastMoments :
    let turns := lastMoments.flatMap fun query => [(query.1, .sweep), (query.1, .ask query.2)]
    (new (.ofSeconds 1)).findings turns =
      [.counted 1, .done, .counted 2, .counted 0, .counted 1, .blocked true, .blocked false, .done,
        .failed (.reported .storeClosed)] :=
  (sweeps_unobservable (.ofSeconds 1) (by decide) (by decide) (by decide)).2 _ rfl (by decide)

end Memory

end AdmissionControl

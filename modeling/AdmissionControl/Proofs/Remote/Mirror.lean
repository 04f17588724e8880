import AdmissionControl.Proofs.Remote.Effect
import AdmissionControl.Proofs.Store.LiveEntries

/-!
# The server as a mirror of the store in memory

Both kinds of store keep the same things: a counter and a block for each identity, each with its
end. The store in memory keeps entries and leaves dead ones lying about; the server keeps texts
under keys, and dead ones vanish. `Mirrors` says that the keys at the server are those of the
entries that live in memory, and that there are no others.

An operation on both keeps the mirror and has the same answer (`Mirrors.perform`), and so does the
passing of time (`Mirrors.later`).
-/

namespace AdmissionControl

/-- A length of time that a server takes as it is: whole milliseconds, one at least, in 63 bits. -/
def Duration.Exact (span : Duration) : Prop :=
  span = .ofMilliseconds span.milliseconds ∧ 1 ≤ span.milliseconds ∧ span.milliseconds < 2 ^ 63

instance (span : Duration) : Decidable span.Exact :=
  inferInstanceAs (Decidable (_ ∧ _ ∧ _))

theorem Duration.Exact.positive {span : Duration} (exact : span.Exact) : 0 < span.nanoseconds := by
  rcases exact with ⟨whole, positive, -⟩
  rw [whole]
  exact Nat.mul_pos positive (by decide)

/-- A server takes the length of a block as it is. -/
def Operation.Exact : Operation → Prop
  | .block _ span => span.Exact
  | _ => True

instance : (operation : Operation) → Decidable operation.Exact
  | .block _ span => inferInstanceAs (Decidable span.Exact)
  | .isBlocked _ => isTrue trivial
  | .increment _ => isTrue trivial
  | .reset _ => isTrue trivial
  | .ping => isTrue trivial
  | .close => isTrue trivial

namespace Remote

theorem lifetime_of_exact {span : Duration} (exact : span.Exact) :
    Duration.ofMilliseconds (lifetime span).toNat = span := by
  rcases exact with ⟨whole, positive, below⟩
  have same : (lifetime span).toNat = span.milliseconds := by
    rw [lifetime_toNat]
    omega
  rw [same, ← whole]

/-- No server refuses a length of time that it can take as it is. -/
theorem refusal?_of_exact {manner : Manner} {span : Duration} (exact : span.Exact) :
    manner.refusal? (lifetime span) = none := by
  apply refusal?_lifetime
  have below := exact.2.2
  rw [lifetime_toNat]
  omega

theorem endOf_of_exact {span : Duration} (exact : span.Exact) (now : Instant) :
    Server.endOf now (lifetime span) = now.shift span := by
  rw [Server.endOf, lifetime_of_exact exact]

/-- The last block of an identity among some calls: when it was set, and for how long. -/
def lastBlock? (identity : Identity) (calls : List (Instant × Operation)) :
    Option (Instant × Duration) :=
  (calls.filterMap fun call =>
    match call with
    | (time, .block subject span) => if subject = identity then some (time, span) else none
    | _ => none).getLast?

/-- The keys at a server are those of the entries that live in a store in memory after some calls,
with the lifetimes that the entries were given. -/
structure Mirrors (memory : Memory) (calls : List (Instant × Operation)) (now : Instant)
    (items : Table String Item) : Prop where
  counter : ∀ identity, items.get? (counterKey identity) =
    (memory.counterAt? now identity).map fun counter =>
      counterItem memory.window counter.count.toNat counter.expiry
  block : ∀ identity,
    (memory.blockAt? now identity = none ∧ items.get? (blockedKey identity) = none) ∨
      ∃ since span, lastBlock? identity calls = some (since, span) ∧
        memory.blockAt? now identity = some (since.shift span) ∧
        items.get? (blockedKey identity) = some (blockItem span (since.shift span))
  nothing : ∀ key, (∀ identity, key ≠ counterKey identity ∧ key ≠ blockedKey identity) →
    items.get? key = none

variable {memory : Memory} {calls : List (Instant × Operation)} {now time : Instant}
  {items : Table String Item} {identity : Identity} {operation : Operation} {span : Duration}
  {server : Server}

theorem lastBlock?_concat : lastBlock? identity (calls ++ [(time, .block identity span)]) =
    some (time, span) := by
  simp [lastBlock?]

theorem lastBlock?_concat_of_ne (other : ∀ span, operation ≠ .block identity span) :
    lastBlock? identity (calls ++ [(time, operation)]) = lastBlock? identity calls := by
  cases operation with
  | block subject span =>
      have differs : subject ≠ identity := by
        rintro rfl
        exact other span rfl
      simp [lastBlock?, differs]
  | _ => simp [lastBlock?]

/-- A block at both sides is the last one, and it lives. -/
theorem block_set (reachable : memory.obstacle? = none) (exact : span.Exact)
    (fits : (Operation.block identity span).Fits memory.window server.now) :
    lastBlock? identity (calls ++ [(server.now, .block identity span)]) =
        some (server.now, span) ∧
      (memory.perform server.now (.block identity span)).2.blockAt? server.now identity =
        some (server.now.shift span) ∧
      (effect memory.window server (.block identity span)).2.get? (blockedKey identity) =
        some (blockItem span (server.now.shift span)) := by
  have lives := @Instant.lt_shift server.now span exact.positive
  refine ⟨lastBlock?_concat, ?_, ?_⟩
  · rw [Memory.perform, Memory.guarded_eq_of_open reachable, Memory.blockAt?_block fits]
    simp [lives, Option.filter_some]
  · simp [effect, refusal?_of_exact exact, Table.get?_insert, endOf_of_exact exact]

namespace Mirrors

theorem later {later : Instant} (mirrors : Mirrors memory calls now items)
    (earlier : now ≤ later) :
    Mirrors memory calls later
      (items.retain fun item => item.ending.all fun ending => later < ending) where
  counter identity := by
    rw [Table.get?_retain, mirrors.counter, Memory.counterAt?_later earlier]
    cases memory.counterAt? now identity with
    | none => rfl
    | some counter =>
        by_cases lives : later < counter.expiry <;>
          simp [counterItem, lives, Option.filter_some]
  block identity := by
    rw [Table.get?_retain, Memory.blockAt?_later earlier]
    rcases mirrors.block identity with ⟨dead, absent⟩ | ⟨since, span, last, alive, present⟩
    · simp [dead, absent]
    · by_cases lives : later < since.shift span
      · refine .inr ⟨since, span, last, ?_, ?_⟩
        · simp [alive, lives, Option.filter_some]
        · simp [present, blockItem, lives, Option.filter_some]
      · refine .inl ⟨?_, ?_⟩
        · simp [alive, lives, Option.filter_some]
        · simp [present, blockItem, lives, Option.filter_some]
  nothing key foreign := by
    rw [Table.get?_retain, mirrors.nothing key foreign]
    rfl

/-- Where nothing of an identity is changed, its counter goes on being mirrored. -/
theorem counter_unchanged (mirrors : Mirrors memory calls server.now server.items)
    (unraised : operation ≠ .increment identity) (unreset : operation ≠ .reset identity) :
    (effect memory.window server operation).2.get? (counterKey identity) =
      ((memory.perform server.now operation).2.counterAt? server.now identity).map fun counter =>
        counterItem memory.window counter.count.toNat counter.expiry := by
  rw [effect_counterKey unraised unreset, mirrors.counter,
    Memory.counterAt?_perform (Nat.le_refl _) unraised unreset]

/-- A raise at both sides has the same answer and leaves the same count. -/
theorem raise (mirrors : Mirrors memory calls server.now server.items)
    (reachable : memory.obstacle? = none) (exact : memory.window.Exact)
    (fits : (Operation.increment identity).Fits memory.window server.now)
    (room : ∀ counter, memory.counterAt? server.now identity = some counter →
      counter.count.toNat + 1 < 2 ^ 63) :
    ∃ count, (memory.perform server.now (.increment identity)).1 = .ok count ∧
      (effect memory.window server (.increment identity)).1 = .ok count ∧
      (effect memory.window server (.increment identity)).2.get? (counterKey identity) =
        ((memory.perform server.now (.increment identity)).2.counterAt? server.now identity).map
          fun counter => counterItem memory.window counter.count.toNat counter.expiry := by
  have kept : Operation.increment identity ≠ .close := nofun
  rcases (Memory.perform_of_open reachable kept fits nofun).1 with ⟨count, answered⟩
  have performed : memory.perform server.now (.increment identity) =
      (.ok count, (memory.perform server.now (.increment identity)).2) := by
    rw [← answered]
  refine ⟨count, answered, ?_⟩
  have taken : server.manner.refusal? (lifetime memory.window) = none := refusal?_of_exact exact
  -- A counter that is dead in memory has vanished at the server, so both begin a new one.
  cases found : memory.counterAt? server.now identity with
  | none =>
      have absent : server.items.get? (counterKey identity) = none := by
        rw [mirrors.counter, found]
        rfl
      rcases Memory.raised_of_dead found performed with ⟨rfl, entry⟩
      have lives := Memory.counterAt?_eq_some_iff.mpr ⟨entry, Instant.lt_shift exact.positive⟩
      rw [effect_increment_of_absent taken absent, endOf_of_exact exact, lives]
      exact ⟨rfl, by simp [Table.get?_insert]⟩
  | some counter =>
      have present : server.items.get? (counterKey identity) =
          some (counterItem memory.window counter.count.toNat counter.expiry) := by
        rw [mirrors.counter, found]
        rfl
      have more := succ_toNat_of_lt (Nat.lt_trans (room counter found) (by decide))
      rcases Memory.raised_of_live found performed with ⟨rfl, entry⟩
      have lives := Memory.counterAt?_eq_some_iff.mpr
        ⟨entry, (Memory.counterAt?_eq_some_iff.mp found).2⟩
      rw [effect_increment_of_present taken (room counter found) present, lives, ← more]
      exact ⟨congrArg Except.ok UInt64.ofNat_toNat, by simp [Table.get?_insert]⟩

theorem answer_eq (mirrors : Mirrors memory calls server.now server.items)
    (reachable : memory.obstacle? = none) (exact : memory.window.Exact)
    (exactBlock : operation.Exact) (fits : operation.Fits memory.window server.now)
    (room : ∀ identity counter, memory.counterAt? server.now identity = some counter →
      operation = .increment identity → counter.count.toNat + 1 < 2 ^ 63) :
    ∃ result, (memory.perform server.now operation).1 = .ok result ∧
      (effect memory.window server operation).1 = .ok result := by
  cases operation with
  | isBlocked identity =>
      refine ⟨memory.blocked server.now identity, ?_, ?_⟩
      · rw [Memory.perform, Memory.guarded_eq_of_open reachable]
      · rw [Memory.blocked_eq_isSome]
        rcases mirrors.block identity with ⟨dead, absent⟩ | ⟨since, span, -, alive, present⟩
        · simp [effect, dead, absent]
        · simp [effect, alive, present]
  | increment identity =>
      rcases mirrors.raise reachable exact fits fun counter found => room identity counter found rfl
        with ⟨count, answered, mirrored, -⟩
      exact ⟨count, answered, mirrored⟩
  | block identity span =>
      have taken : server.manner.refusal? (lifetime span) = none := refusal?_of_exact exactBlock
      refine ⟨(), ?_, by simp [effect, taken]⟩
      rw [Memory.perform, Memory.guarded_eq_of_open reachable, Memory.block_of_fits fits]
  | reset identity =>
      refine ⟨(), ?_, rfl⟩
      rw [Memory.perform, Memory.guarded_eq_of_open reachable]
  | ping =>
      refine ⟨(), ?_, rfl⟩
      rw [Memory.perform, Memory.guarded_eq_of_open reachable]
  | close => exact ⟨(), rfl, rfl⟩

theorem perform (mirrors : Mirrors memory calls server.now server.items)
    (reachable : memory.obstacle? = none) (exact : memory.window.Exact)
    (exactBlock : operation.Exact) (fits : operation.Fits memory.window server.now)
    (room : ∀ identity counter, memory.counterAt? server.now identity = some counter →
      operation = .increment identity → counter.count.toNat + 1 < 2 ^ 63) :
    Mirrors (memory.perform server.now operation).2 (calls ++ [(server.now, operation)]) server.now
      (effect memory.window server operation).2 where
  counter identity := by
    rw [Memory.perform_window]
    by_cases raised : operation = .increment identity
    · subst raised
      rcases mirrors.raise reachable exact fits fun counter found => room identity counter found rfl
        with ⟨count, -, -, mirrored⟩
      exact mirrored
    · by_cases reset : operation = .reset identity
      · subst reset
        rw [Memory.perform, Memory.guarded_eq_of_open reachable]
        simp [effect, Memory.counterAt?, Table.get?_erase]
      · exact mirrors.counter_unchanged raised reset
  block identity := by
    by_cases blocks : ∃ span, operation = .block identity span
    · rcases blocks with ⟨span, rfl⟩
      exact .inr ⟨server.now, span, block_set reachable exactBlock fits⟩
    · have unblocked : ∀ span, operation ≠ .block identity span := fun span same =>
        blocks ⟨span, same⟩
      rw [lastBlock?_concat_of_ne unblocked, effect_blockedKey unblocked,
        Memory.blockAt?_perform (Nat.le_refl _) unblocked]
      exact mirrors.block identity
  nothing key foreign := by
    rw [effect_of_foreign foreign]
    exact mirrors.nothing key foreign

end Mirrors

end Remote

end AdmissionControl

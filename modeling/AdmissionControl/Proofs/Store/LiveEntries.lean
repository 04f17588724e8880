import AdmissionControl.Store.Memory

/-!
# The live entries of a store in memory

What the operations of a store in memory do to the entries of one identity that live at a point in
time or later.

A sweep drops exactly the entries that are dead, and entries that are dead stay dead. Seen through
`Memory.counterAt?` and `Memory.blockAt?` at any later point it therefore changes nothing, and each
operation is described by what it does to the identity that it is about.
-/

namespace AdmissionControl

/-! ## Counts as words -/

theorem succ_toNat_le (count : UInt64) : (count + 1).toNat ≤ count.toNat + 1 := by
  rw [UInt64.toNat_add]
  exact Nat.mod_le _ _

theorem succ_toNat_of_lt {count : UInt64} (room : count.toNat + 1 < UInt64.size) :
    (count + 1).toNat = count.toNat + 1 := by
  rw [UInt64.toNat_add]
  exact Nat.mod_eq_of_lt room

/-! ## Points in time -/

namespace Instant

theorem lt_shift {start : Instant} {span : Duration} (positive : 0 < span.nanoseconds) :
    start < start.shift span :=
  Nat.lt_add_of_pos_right positive

theorem after?_eq_some_shift {start finish : Instant} {span : Duration}
    (held : start.after? span = some finish) : finish = start.shift span := by
  rcases after?_eq_some_iff.mp held with ⟨sum, _⟩
  cases finish
  simpa [shift] using sum

theorem after?_of_lt_horizon {start : Instant} {span : Duration}
    (fits : (start.shift span).nanoseconds < horizon) :
    start.after? span = some (start.shift span) :=
  after?_eq_some_iff.mpr ⟨rfl, fits⟩

/-- What lives at a point in time is among what lived before. -/
theorem filter_alive_later {Entry : Type} {now later : Instant} (candidate? : Option Entry)
    (expiry : Entry → Instant) (earlier : now ≤ later) :
    candidate?.filter (fun entry => later < expiry entry) =
      (candidate?.filter fun entry => now < expiry entry).filter
        fun entry => later < expiry entry := by
  cases candidate? with
  | none => rfl
  | some entry =>
      by_cases alive : later < expiry entry
      · have aliveNow : now < expiry entry := by
          simp only [lt_iff, le_iff] at alive earlier ⊢
          omega
        simp [alive, aliveNow, Option.filter_some]
      · by_cases aliveNow : now < expiry entry <;> simp [alive, aliveNow, Option.filter_some]

end Instant

/-- The clock can hold the end of the entry that an operation makes in a store with a window. -/
def Operation.Fits (window : Duration) (now : Instant) : Operation → Prop
  | .increment _ => (now.shift window).nanoseconds < Instant.horizon
  | .block _ span => (now.shift span).nanoseconds < Instant.horizon
  | _ => True

instance (window : Duration) (now : Instant) :
    (operation : Operation) → Decidable (operation.Fits window now)
  | .increment _ => inferInstanceAs (Decidable (_ < _))
  | .block _ _ => inferInstanceAs (Decidable (_ < _))
  | .isBlocked _ => isTrue trivial
  | .reset _ => isTrue trivial
  | .ping => isTrue trivial
  | .close => isTrue trivial

namespace Memory

/-- The counter of an identity, if it lives at a point in time. -/
def counterAt? (memory : Memory) (now : Instant) (identity : Identity) : Option Counter :=
  (memory.counters.get? identity).filter fun counter => now < counter.expiry

/-- The end of the block of an identity, if the block lives at a point in time. -/
def blockAt? (memory : Memory) (now : Instant) (identity : Identity) : Option Instant :=
  (memory.blocks.get? identity).filter fun expiry => now < expiry

/-- The counter of an identity as a raise at a point in time leaves it. -/
def raised (memory : Memory) (now : Instant) (identity : Identity) : Counter :=
  let counter := (memory.counterAt? now identity).getD ⟨0, now.shift memory.window⟩
  { counter with count := counter.count + 1 }

variable {memory after : Memory} {now later : Instant} {identity : Identity}

theorem counterAt?_eq_some_iff {counter : Counter} :
    memory.counterAt? now identity = some counter ↔
      memory.counters.get? identity = some counter ∧ now < counter.expiry := by
  simp [counterAt?, Option.filter_eq_some_iff]

theorem blockAt?_eq_some_iff {expiry : Instant} :
    memory.blockAt? now identity = some expiry ↔
      memory.blocks.get? identity = some expiry ∧ now < expiry := by
  simp [blockAt?, Option.filter_eq_some_iff]

theorem blocked_eq_isSome :
    memory.blocked now identity = (memory.blockAt? now identity).isSome := by
  unfold blocked blockAt?
  cases memory.blocks.get? identity with
  | none => rfl
  | some expiry => by_cases alive : now < expiry <;> simp [alive, Option.filter_some]

theorem counterAt?_later (earlier : now ≤ later) :
    memory.counterAt? later identity =
      (memory.counterAt? now identity).filter fun counter => later < counter.expiry :=
  Instant.filter_alive_later _ Counter.expiry earlier

theorem blockAt?_later (earlier : now ≤ later) :
    memory.blockAt? later identity =
      (memory.blockAt? now identity).filter fun expiry => later < expiry :=
  Instant.filter_alive_later _ id earlier

theorem counterAt?_eq_none_of_le (earlier : now ≤ later)
    (dead : memory.counterAt? now identity = none) : memory.counterAt? later identity = none := by
  rw [counterAt?_later earlier, dead]
  rfl

theorem counterAt?_of_lt_expiry {counter : Counter} (earlier : now ≤ later)
    (live : memory.counterAt? now identity = some counter) (alive : later < counter.expiry) :
    memory.counterAt? later identity = some counter := by
  rw [counterAt?_later earlier, live]
  simp [alive, Option.filter_some]

/-- The count that can be seen is that of the live counter. -/
theorem count_eq_live : memory.count now identity =
    if memory.spoilt then 0 else ((memory.counterAt? now identity).map Counter.count).getD 0 := by
  unfold count counterAt?
  cases memory.counters.get? identity with
  | none => rfl
  | some counter => by_cases alive : now < counter.expiry <;> simp [alive, Option.filter_some]

/-! ## Sweeps -/

@[simp]
theorem sweep_window : (memory.sweep now).window = memory.window := rfl

@[simp]
theorem sweep_closed : (memory.sweep now).closed = memory.closed := rfl

@[simp]
theorem sweep_spoilt : (memory.sweep now).spoilt = memory.spoilt := rfl

@[simp]
theorem sweep_counters_get? : (memory.sweep now).counters.get? identity =
    memory.counterAt? now identity := by
  simp [sweep, counterAt?]

@[simp]
theorem sweep_blocks_get? : (memory.sweep now).blocks.get? identity =
    memory.blockAt? now identity := by
  simp [sweep, blockAt?]

theorem counterAt?_sweep (earlier : now ≤ later) :
    (memory.sweep now).counterAt? later identity = memory.counterAt? later identity := by
  calc
    (memory.sweep now).counterAt? later identity
      = (memory.counterAt? now identity).filter fun counter => later < counter.expiry := by
        rw [counterAt?, sweep_counters_get?]
    _ = memory.counterAt? later identity := (counterAt?_later earlier).symm

theorem blockAt?_sweep (earlier : now ≤ later) :
    (memory.sweep now).blockAt? later identity = memory.blockAt? later identity := by
  calc
    (memory.sweep now).blockAt? later identity
      = (memory.blockAt? now identity).filter fun expiry => later < expiry := by
        rw [blockAt?, sweep_blocks_get?]
    _ = memory.blockAt? later identity := (blockAt?_later earlier).symm

/-! ## Operations -/

variable {subject : Identity} {operation : Operation} {span : Duration}

theorem guarded_eq_of_obstacle {α : Type} {performed : Answer α × Memory} {fault : Fault}
    (obstacle : memory.obstacle? = some fault) :
    memory.guarded performed = (.error (.reported fault), memory) := by
  simp [guarded, obstacle]

theorem guarded_eq_of_open {α : Type} {performed : Answer α × Memory}
    (reachable : memory.obstacle? = none) : memory.guarded performed = performed := by
  simp [guarded, reachable]

theorem eq_of_guarded_ok {α : Type} {performed : Answer α × Memory} {result : α}
    (answered : memory.guarded performed = (.ok result, after)) :
    performed = (.ok result, after) := by
  cases obstacle : memory.obstacle? with
  | none => rwa [guarded_eq_of_open obstacle] at answered
  | some fault => simp [guarded_eq_of_obstacle obstacle] at answered

theorem unspoilt_of_guarded_ok {α : Type} {performed : Answer α × Memory} {result : α}
    (answered : memory.guarded performed = (.ok result, after)) : memory.spoilt = false := by
  cases obstacle : memory.obstacle? with
  | some fault => simp [guarded_eq_of_obstacle obstacle] at answered
  | none =>
      unfold obstacle? at obstacle
      split at obstacle
      · cases obstacle
      · split at obstacle
        · cases obstacle
        · next unspoilt => simpa using unspoilt

/-- What holds of a store and of the outcome of an operation holds also where something may be in
the way of the operation. -/
theorem guarded_snd {α : Type} {performed : Answer α × Memory} (property : Memory → Prop)
    (before : property memory) (outcome : property performed.2) :
    property (memory.guarded performed).2 := by
  cases obstacle : memory.obstacle? with
  | none => rwa [guarded_eq_of_open obstacle]
  | some fault => rwa [guarded_eq_of_obstacle obstacle]

theorem increment_of_overflow (overflow : now.after? memory.window = none) :
    memory.increment now identity =
      (.error .abandoned, { memory.sweep now with spoilt := true }) := by
  simp [increment, overflow]

/-- Where the clock can hold the end of a window that begins now, a raise counts on from the counter
that lives, or from nothing in a new window. -/
theorem increment_of_held {expiry : Instant} (held : now.after? memory.window = some expiry) :
    memory.increment now identity =
      (.ok (((memory.counterAt? now identity).getD ⟨0, expiry⟩).count + 1),
        { memory.sweep now with
          counters := (memory.sweep now).counters.insert identity
            ⟨((memory.counterAt? now identity).getD ⟨0, expiry⟩).count + 1,
              ((memory.counterAt? now identity).getD ⟨0, expiry⟩).expiry⟩ }) := by
  simp [increment, held]

theorem increment_of_fits (fits : (Operation.increment identity).Fits memory.window now) :
    memory.increment now identity =
      (.ok (memory.raised now identity).count,
        { memory.sweep now with
          counters := (memory.sweep now).counters.insert identity
            (memory.raised now identity) }) :=
  increment_of_held (Instant.after?_of_lt_horizon fits)

theorem counterAt?_increment (fits : (Operation.increment identity).Fits memory.window now) :
    (memory.increment now identity).2.counterAt? later identity =
      (some (memory.raised now identity)).filter fun counter => later < counter.expiry := by
  simp [increment_of_fits fits, counterAt?, Table.get?_insert]

theorem block_of_overflow (overflow : now.after? span = none) :
    memory.block now identity span =
      (.error .abandoned, { memory.sweep now with spoilt := true }) := by
  simp [block, overflow]

theorem block_of_held {expiry : Instant} (held : now.after? span = some expiry) :
    memory.block now identity span =
      (.ok (), { memory.sweep now with
        blocks := (memory.sweep now).blocks.insert identity expiry }) := by
  simp [block, held]

theorem block_of_fits (fits : (Operation.block identity span).Fits memory.window now) :
    memory.block now identity span =
      (.ok (), { memory.sweep now with
        blocks := (memory.sweep now).blocks.insert identity (now.shift span) }) :=
  block_of_held (Instant.after?_of_lt_horizon fits)

theorem blockAt?_block (fits : (Operation.block identity span).Fits memory.window now) :
    (memory.block now identity span).2.blockAt? later identity =
      (some (now.shift span)).filter fun expiry => later < expiry := by
  simp [block_of_fits fits, blockAt?, Table.get?_insert]

theorem raised_of_dead {count : UInt64} (dead : memory.counterAt? now identity = none)
    (answered : memory.perform now (.increment identity) = (.ok count, after)) :
    count = 1 ∧ after.counters.get? identity = some ⟨1, now.shift memory.window⟩ := by
  have raised := eq_of_guarded_ok answered
  cases held : now.after? memory.window with
  | none => simp [increment_of_overflow held] at raised
  | some expiry =>
      have ends := Instant.after?_eq_some_shift held
      simp only [increment_of_held held, dead, Option.getD_none, Prod.mk.injEq, Except.ok.injEq]
        at raised
      rcases raised with ⟨rfl, rfl⟩
      refine ⟨by decide, ?_⟩
      simp [Table.get?_insert, ends]

theorem raised_of_live {count : UInt64} {counter : Counter}
    (live : memory.counterAt? now identity = some counter)
    (answered : memory.perform now (.increment identity) = (.ok count, after)) :
    count = counter.count + 1 ∧
      after.counters.get? identity = some ⟨counter.count + 1, counter.expiry⟩ := by
  have raised := eq_of_guarded_ok answered
  cases held : now.after? memory.window with
  | none => simp [increment_of_overflow held] at raised
  | some expiry =>
      simp only [increment_of_held held, live, Option.getD_some, Prod.mk.injEq, Except.ok.injEq]
        at raised
      rcases raised with ⟨rfl, rfl⟩
      exact ⟨rfl, by simp [Table.get?_insert]⟩

theorem counterAt?_increment_of_ne (earlier : now ≤ later) (other : identity ≠ subject) :
    (memory.increment now subject).2.counterAt? later identity =
      memory.counterAt? later identity := by
  refine Eq.trans ?_ (counterAt?_sweep earlier)
  cases held : now.after? memory.window with
  | none => rw [increment_of_overflow held]; rfl
  | some expiry =>
      rw [increment_of_held held]
      simp [counterAt?, Table.get?_insert, other]

theorem blockAt?_increment (earlier : now ≤ later) :
    (memory.increment now subject).2.blockAt? later identity = memory.blockAt? later identity := by
  refine Eq.trans ?_ (blockAt?_sweep earlier)
  cases held : now.after? memory.window with
  | none => rw [increment_of_overflow held]; rfl
  | some expiry => rw [increment_of_held held]; rfl

theorem counterAt?_block (earlier : now ≤ later) :
    (memory.block now subject span).2.counterAt? later identity =
      memory.counterAt? later identity := by
  refine Eq.trans ?_ (counterAt?_sweep earlier)
  cases held : now.after? span with
  | none => rw [block_of_overflow held]; rfl
  | some expiry => rw [block_of_held held]; rfl

theorem blockAt?_block_of_ne (earlier : now ≤ later) (other : identity ≠ subject) :
    (memory.block now subject span).2.blockAt? later identity = memory.blockAt? later identity := by
  refine Eq.trans ?_ (blockAt?_sweep earlier)
  cases held : now.after? span with
  | none => rw [block_of_overflow held]; rfl
  | some expiry =>
      rw [block_of_held held]
      simp [blockAt?, Table.get?_insert, other]

/-- Only raising or resetting the counter of an identity changes it. -/
theorem counterAt?_perform (earlier : now ≤ later) (unraised : operation ≠ .increment identity)
    (unreset : operation ≠ .reset identity) :
    (memory.perform now operation).2.counterAt? later identity =
      memory.counterAt? later identity := by
  let unchanged (other : Memory) : Prop :=
    other.counterAt? later identity = memory.counterAt? later identity
  cases operation with
  | isBlocked subject => exact guarded_snd unchanged rfl rfl
  | increment subject =>
      have other : identity ≠ subject := by rintro rfl; exact unraised rfl
      exact guarded_snd unchanged rfl (counterAt?_increment_of_ne earlier other)
  | block subject span => exact guarded_snd unchanged rfl (counterAt?_block earlier)
  | reset subject =>
      have other : identity ≠ subject := by rintro rfl; exact unreset rfl
      refine guarded_snd unchanged rfl ?_
      simp [unchanged, counterAt?, Table.get?_erase, other]
  | ping => exact guarded_snd unchanged rfl rfl
  | close => rfl

/-- An operation that fails changes nothing, or sweeps the store and spoils it. -/
theorem perform_of_error {failure : Failure}
    (failed : (memory.perform now operation).1 = .error failure) :
    (memory.perform now operation).2 = memory ∨
      (memory.perform now operation).2 = { memory.sweep now with spoilt := true } := by
  cases obstacle : memory.obstacle? with
  | some fault =>
      left
      cases operation with
      | close => cases failed
      | _ => simp only [perform, guarded_eq_of_obstacle obstacle]
  | none =>
      right
      cases operation with
      | increment identity =>
          simp only [perform, guarded_eq_of_open obstacle] at failed ⊢
          cases held : now.after? memory.window with
          | none => simp only [increment_of_overflow held]
          | some expiry => simp [increment_of_held held] at failed
      | block identity span =>
          simp only [perform, guarded_eq_of_open obstacle] at failed ⊢
          cases held : now.after? span with
          | none => simp only [block_of_overflow held]
          | some expiry => simp [block_of_held held] at failed
      | close => cases failed
      | _ => simp [perform, guarded_eq_of_open obstacle] at failed

/-- What is held after an operation that fails was held before. -/
theorem held_of_error {failure : Failure}
    (failed : (memory.perform now operation).1 = .error failure) :
    (∀ counter, (memory.perform now operation).2.counters.get? identity = some counter →
        memory.counters.get? identity = some counter) ∧
      ∀ expiry, (memory.perform now operation).2.blocks.get? identity = some expiry →
        memory.blocks.get? identity = some expiry := by
  rcases perform_of_error failed with same | swept
  · rw [same]
    exact ⟨fun _ entry => entry, fun _ entry => entry⟩
  · rw [swept]
    simp only [sweep_counters_get?, sweep_blocks_get?]
    constructor
    · intro counter entry
      exact (counterAt?_eq_some_iff.mp entry).1
    · intro expiry entry
      exact (blockAt?_eq_some_iff.mp entry).1

theorem counterAt?_of_increment_error {failure : Failure} (earlier : now ≤ later)
    (failed : memory.perform now (.increment subject) = (.error failure, after)) :
    after.counterAt? later identity = memory.counterAt? later identity := by
  have outcome : (memory.perform now (.increment subject)).2 = after := by rw [failed]
  rw [← outcome]
  rcases perform_of_error (congrArg Prod.fst failed) with same | swept
  · rw [same]
  · rw [swept]
    exact counterAt?_sweep earlier

theorem counterAt?_of_perform {counter : Counter} (earlier : now ≤ later)
    (unraised : operation ≠ .increment identity)
    (live : (memory.perform now operation).2.counterAt? later identity = some counter) :
    memory.counterAt? later identity = some counter := by
  by_cases reset : operation = .reset identity
  · subst reset
    let older (other : Memory) : Prop :=
      ∀ counter, other.counterAt? later identity = some counter →
        memory.counterAt? later identity = some counter
    refine guarded_snd older (fun _ same => same) ?_ counter live
    intro counter absent
    simp [counterAt?, Table.get?_erase] at absent
  · rwa [counterAt?_perform earlier unraised reset] at live

/-- Only blocking an identity changes its block. -/
theorem blockAt?_perform (earlier : now ≤ later)
    (unblocked : ∀ span, operation ≠ .block identity span) :
    (memory.perform now operation).2.blockAt? later identity =
      memory.blockAt? later identity := by
  let unchanged (other : Memory) : Prop :=
    other.blockAt? later identity = memory.blockAt? later identity
  cases operation with
  | isBlocked subject => exact guarded_snd unchanged rfl rfl
  | increment subject => exact guarded_snd unchanged rfl (blockAt?_increment earlier)
  | block subject span =>
      have other : identity ≠ subject := by rintro rfl; exact unblocked span rfl
      exact guarded_snd unchanged rfl (blockAt?_block_of_ne earlier other)
  | reset subject => exact guarded_snd unchanged rfl rfl
  | ping => exact guarded_snd unchanged rfl rfl
  | close => rfl

/-- Every counter of an identity after an operation other than raising it was there before. -/
theorem counters_get?_of_perform {counter : Counter} (unraised : operation ≠ .increment identity)
    (entry : (memory.perform now operation).2.counters.get? identity = some counter) :
    memory.counters.get? identity = some counter := by
  let older (other : Memory) : Prop :=
    ∀ counter, other.counters.get? identity = some counter →
      memory.counters.get? identity = some counter
  have untouched : older memory := fun _ entry => entry
  have swept : older (memory.sweep now) := by
    intro counter entry
    rw [sweep_counters_get?] at entry
    exact (counterAt?_eq_some_iff.mp entry).1
  have outcome : older (memory.perform now operation).2 := by
    cases operation with
    | isBlocked subject => exact guarded_snd older untouched untouched
    | increment subject =>
        have other : identity ≠ subject := by
          rintro rfl
          exact unraised rfl
        apply guarded_snd older untouched
        cases held : now.after? memory.window with
        | none =>
            rw [increment_of_overflow held]
            exact swept
        | some _ =>
            rw [increment_of_held held]
            intro counter entry
            simp only [Table.get?_insert, if_neg other] at entry
            exact swept counter entry
    | block subject span =>
        apply guarded_snd older untouched
        cases held : now.after? span with
        | none =>
            rw [block_of_overflow held]
            exact swept
        | some _ =>
            rw [block_of_held held]
            exact swept
    | reset subject =>
        apply guarded_snd older untouched
        intro counter entry
        simp only [Table.get?_erase, Option.ite_none_left_eq_some] at entry
        exact entry.2
    | ping => exact guarded_snd older untouched untouched
    | close => exact untouched
  exact outcome counter entry

/-- Every block entry of an identity after an operation was there before or is the one that the
operation set. -/
theorem blocks_get?_of_perform {expiry : Instant}
    (entry : (memory.perform now operation).2.blocks.get? identity = some expiry) :
    memory.blocks.get? identity = some expiry ∨
      ∃ span, operation = .block identity span ∧ expiry = now.shift span := by
  let explained (other : Memory) : Prop :=
    ∀ expiry, other.blocks.get? identity = some expiry →
      memory.blocks.get? identity = some expiry ∨
        ∃ span, operation = .block identity span ∧ expiry = now.shift span
  have untouched : explained memory := fun _ entry => Or.inl entry
  have swept : explained (memory.sweep now) := by
    intro expiry entry
    rw [sweep_blocks_get?] at entry
    exact Or.inl (blockAt?_eq_some_iff.mp entry).1
  have outcome : explained (memory.perform now operation).2 := by
    cases operation with
    | isBlocked subject => exact guarded_snd explained untouched untouched
    | increment subject =>
        refine guarded_snd explained untouched ?_
        cases held : now.after? memory.window with
        | none => rw [increment_of_overflow held]; exact swept
        | some _ => rw [increment_of_held held]; exact swept
    | block subject span =>
        refine guarded_snd explained untouched ?_
        cases held : now.after? span with
        | none => rw [block_of_overflow held]; exact swept
        | some ending =>
            rw [block_of_held held]
            intro expiry entry
            simp only [Table.get?_insert] at entry
            split at entry
            · next same =>
                rw [← Option.some.inj entry, same]
                exact Or.inr ⟨span, rfl, Instant.after?_eq_some_shift held⟩
            · exact swept expiry entry
    | reset subject => exact guarded_snd explained untouched untouched
    | ping => exact guarded_snd explained untouched untouched
    | close => exact untouched
  exact outcome expiry entry

theorem blocked_of_ok
    (answered : memory.perform now (.block identity span) = (.ok (), after)) :
    after.blocks.get? identity = some (now.shift span) := by
  have blocked := eq_of_guarded_ok answered
  cases held : now.after? span with
  | none => simp [block_of_overflow held] at blocked
  | some expiry =>
      rw [block_of_held held] at blocked
      have outcome := congrArg Prod.snd blocked
      simp only at outcome
      rw [← outcome, ← Instant.after?_eq_some_shift held]
      simp [Table.get?_insert]

theorem lookup_of_ok {found : Bool}
    (answered : memory.perform now (.isBlocked identity) = (.ok found, after)) :
    found = (memory.blockAt? now identity).isSome ∧ after = memory := by
  have looked := eq_of_guarded_ok answered
  simp only [Prod.mk.injEq, Except.ok.injEq] at looked
  rcases looked with ⟨rfl, rfl⟩
  exact ⟨blocked_eq_isSome, rfl⟩

/-- An operation other than closing changes nothing but the entries and whether they are spoilt. -/
theorem perform_kept (kept : operation ≠ .close) : ∃ counters blocks spoilt,
    (memory.perform now operation).2 = { memory with counters, blocks, spoilt } := by
  let entriesOnly (other : Memory) : Prop :=
    ∃ counters blocks spoilt, other = { memory with counters, blocks, spoilt }
  have unchanged : entriesOnly memory := ⟨_, _, _, rfl⟩
  cases operation with
  | isBlocked subject => exact guarded_snd entriesOnly unchanged unchanged
  | increment subject =>
      refine guarded_snd entriesOnly unchanged ?_
      cases held : now.after? memory.window with
      | none => rw [increment_of_overflow held]; exact ⟨_, _, _, rfl⟩
      | some expiry => rw [increment_of_held held]; exact ⟨_, _, _, rfl⟩
  | block subject span =>
      refine guarded_snd entriesOnly unchanged ?_
      cases held : now.after? span with
      | none => rw [block_of_overflow held]; exact ⟨_, _, _, rfl⟩
      | some expiry => rw [block_of_held held]; exact ⟨_, _, _, rfl⟩
  | reset subject => exact guarded_snd entriesOnly unchanged ⟨_, _, _, rfl⟩
  | ping => exact guarded_snd entriesOnly unchanged unchanged
  | close => exact absurd rfl kept

@[simp]
theorem perform_window : (memory.perform now operation).2.window = memory.window := by
  by_cases close : operation = .close
  · subst close
    rfl
  · rcases @perform_kept memory now operation close with ⟨counters, blocks, spoilt, after⟩
    rw [after]

theorem perform_closed (kept : operation ≠ .close) :
    (memory.perform now operation).2.closed = memory.closed := by
  rcases @perform_kept memory now operation kept with ⟨counters, blocks, spoilt, after⟩
  rw [after]

/-- Only an operation whose end the clock cannot hold spoils a store. -/
theorem perform_spoilt (fits : operation.Fits memory.window now) :
    (memory.perform now operation).2.spoilt = memory.spoilt := by
  let same (other : Memory) : Prop := other.spoilt = memory.spoilt
  cases operation with
  | isBlocked subject => exact guarded_snd same rfl rfl
  | increment subject => exact guarded_snd same rfl (by simp [same, increment_of_fits fits])
  | block subject span => exact guarded_snd same rfl (by simp [same, block_of_fits fits])
  | reset subject => exact guarded_snd same rfl rfl
  | ping => exact guarded_snd same rfl rfl
  | close => rfl

theorem obstacle?_perform (kept : operation ≠ .close) (fits : operation.Fits memory.window now) :
    (memory.perform now operation).2.obstacle? = memory.obstacle? := by
  simp only [obstacle?, perform_closed kept, perform_spoilt fits]

/-- At a store that can be reached an operation succeeds if the clock can hold its end. -/
theorem perform_of_fits (reachable : memory.obstacle? = none)
    (fits : operation.Fits memory.window now) :
    ∃ result, (memory.perform now operation).1 = .ok result := by
  cases operation with
  | increment identity =>
      rw [perform, guarded_eq_of_open reachable, increment_of_fits fits]
      exact ⟨_, rfl⟩
  | block identity span =>
      rw [perform, guarded_eq_of_open reachable, block_of_fits fits]
      exact ⟨_, rfl⟩
  | close => exact ⟨(), rfl⟩
  | _ =>
      rw [perform, guarded_eq_of_open reachable]
      exact ⟨_, rfl⟩

/-- While the clock can hold every expiry, an operation other than closing succeeds at a store that
can be reached, and the store can still be reached afterwards. -/
theorem perform_of_open (reachable : memory.obstacle? = none) (kept : operation ≠ .close)
    (windowFits : (now.shift memory.window).nanoseconds < Instant.horizon)
    (blockFits : ∀ subject span, operation = .block subject span →
      (now.shift span).nanoseconds < Instant.horizon) :
    (∃ result, (memory.perform now operation).1 = .ok result) ∧
      (memory.perform now operation).2.obstacle? = none := by
  have fits : operation.Fits memory.window now := by
    cases operation with
    | increment subject => exact windowFits
    | block subject span => exact blockFits subject span rfl
    | _ => trivial
  exact ⟨perform_of_fits reachable fits, (obstacle?_perform kept fits).trans reachable⟩

end Memory

end AdmissionControl

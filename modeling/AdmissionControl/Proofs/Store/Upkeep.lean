import AdmissionControl.Proofs.Admission.Course
import AdmissionControl.Proofs.Store.Blocks
import AdmissionControl.Proofs.Store.Ledger
import AdmissionControl.Proofs.Store.Lifetimes
import Mathlib.Data.Set.Card

/-!
# What a store in memory holds

A dead entry is held until the next write. This module says how much that can be. Right after a
write no dead entry is held at all (`Memory.Swept`), and nothing but a write adds an entry.

What is held then is explained by the calls before: every counter by the raises since its lifetime
was opened, every block by the call that set it (`Memory.Recorded`). Each call keeps this, so a run
keeps it, and since what is live was written not long ago, the identities of the recent writes bound
the size of the store (`StoreLog.upkeep`).
-/

namespace AdmissionControl

/-! ## The size of a table -/

namespace Table

variable {Key Entry : Type}

theorem size_filter_le (table : Table Key Entry) (keep : Key → Entry → Bool) :
    (table.filter keep).size ≤ table.size :=
  List.length_filter_le _ _

variable [DecidableEq Key] {table : Table Key Entry} {key : Key}

/-- The keys that have an entry. -/
def keys (table : Table Key Entry) : Finset Key :=
  (table.entries.map Prod.fst).toFinset

theorem card_keys : table.keys.card = table.size := by
  rw [keys, List.toFinset_card_of_nodup table.distinct, List.length_map, size]

theorem mem_keys_iff : key ∈ table.keys ↔ (table.get? key).isSome := by
  rw [← not_iff_not, Bool.not_eq_true, Option.isSome_eq_false_iff, Option.isNone_iff_eq_none, get?,
    List.lookup_eq_none_iff]
  simp only [keys, List.mem_toFinset, List.mem_map, Prod.exists, exists_and_right, exists_eq_right,
    not_exists, bne_iff_ne, Prod.forall]
  constructor
  · rintro absent other entry member rfl
    exact absent entry member
  · intro differs entry member
    exact differs key entry member rfl

end Table

namespace Memory

variable {memory after : Memory} {now : Instant} {identity : Identity} {span : Duration}

/-- No entry is held that is dead at a point in time. -/
structure Swept (memory : Memory) (now : Instant) : Prop where
  counters : ∀ identity counter, memory.counters.get? identity = some counter →
    now < counter.expiry
  blocks : ∀ identity expiry, memory.blocks.get? identity = some expiry → now < expiry

theorem swept_sweep : (memory.sweep now).Swept now where
  counters := by
    intro identity counter held
    rw [sweep_counters_get?] at held
    exact (counterAt?_eq_some_iff.mp held).2
  blocks := by
    intro identity expiry held
    rw [sweep_blocks_get?] at held
    exact (blockAt?_eq_some_iff.mp held).2

theorem Swept.counterAt?_eq (swept : memory.Swept now) :
    memory.counterAt? now identity = memory.counters.get? identity := by
  apply Option.ext
  intro counter
  rw [counterAt?_eq_some_iff]
  exact ⟨And.left, fun held => ⟨held, swept.counters identity counter held⟩⟩

theorem Swept.blockAt?_eq (swept : memory.Swept now) :
    memory.blockAt? now identity = memory.blocks.get? identity := by
  apply Option.ext
  intro expiry
  rw [blockAt?_eq_some_iff]
  exact ⟨And.left, fun held => ⟨held, swept.blocks identity expiry held⟩⟩

/-- In a swept store the entries are those of the identities that are counted or blocked. -/
theorem Swept.entryCount_eq (swept : memory.Swept now) (reachable : memory.spoilt = false) :
    memory.entryCount = {identity | (memory.counterAt? now identity).isSome}.ncard +
      {identity | memory.blocked now identity}.ncard := by
  have counted : {identity | (memory.counterAt? now identity).isSome} = ↑memory.counters.keys := by
    ext identity
    simp [swept.counterAt?_eq, Table.mem_keys_iff]
  have blocked : {identity | memory.blocked now identity} = ↑memory.blocks.keys := by
    ext identity
    simp [blocked_eq_isSome, swept.blockAt?_eq, Table.mem_keys_iff]
  rw [counted, blocked, Set.ncard_coe_finset, Set.ncard_coe_finset, Table.card_keys,
    Table.card_keys, entryCount, reachable]
  rfl

/-! ## Writes -/

theorem Swept.insertCounter {counter : Counter} (swept : memory.Swept now)
    (alive : now < counter.expiry) :
    Swept { memory with counters := memory.counters.insert identity counter } now where
  counters := by
    intro other held entry
    simp only [Table.get?_insert] at entry
    split at entry
    · cases entry
      exact alive
    · exact swept.counters other held entry
  blocks := swept.blocks

theorem Swept.insertBlock {expiry : Instant} (swept : memory.Swept now) (alive : now < expiry) :
    Swept { memory with blocks := memory.blocks.insert identity expiry } now where
  counters := swept.counters
  blocks := by
    intro other held entry
    simp only [Table.get?_insert] at entry
    split at entry
    · cases entry
      exact alive
    · exact swept.blocks other held entry

/-- A raise leaves no dead entry. -/
theorem swept_of_increment {count : UInt64} (positive : 0 < memory.window.nanoseconds)
    (answered : memory.perform now (.increment identity) = (.ok count, after)) :
    after.Swept now ∧ after.spoilt = false := by
  have raised := eq_of_guarded_ok answered
  have unspoilt := unspoilt_of_guarded_ok answered
  cases held : now.after? memory.window with
  | none => simp [increment_of_overflow held] at raised
  | some expiry =>
      simp only [increment_of_held held, Prod.mk.injEq] at raised
      rcases raised with ⟨_, rfl⟩
      refine ⟨swept_sweep.insertCounter ?_, unspoilt⟩
      cases live : memory.counterAt? now identity with
      | none =>
          rw [Option.getD_none, Instant.after?_eq_some_shift held]
          exact Instant.lt_shift positive
      | some counter => exact (counterAt?_eq_some_iff.mp live).2

/-- A block leaves no dead entry. -/
theorem swept_of_block (positive : 0 < span.nanoseconds)
    (answered : memory.perform now (.block identity span) = (.ok (), after)) :
    after.Swept now ∧ after.spoilt = false := by
  have blocked := eq_of_guarded_ok answered
  have unspoilt := unspoilt_of_guarded_ok answered
  cases held : now.after? span with
  | none => simp [block_of_overflow held] at blocked
  | some expiry =>
      simp only [block_of_held held, Prod.mk.injEq] at blocked
      rcases blocked with ⟨_, rfl⟩
      refine ⟨swept_sweep.insertBlock ?_, unspoilt⟩
      rw [Instant.after?_eq_some_shift held]
      exact Instant.lt_shift positive

end Memory

/-! ## What adds no entry -/

/-- A query that may add an entry. -/
def Query.writes : Query → Bool
  | .perform (.increment _) => true
  | .perform (.block _ _) => true
  | _ => false

namespace Memory

variable {memory : Memory} {now : Instant}

/-- Nothing but a raise or a block adds an entry. -/
theorem entryCount_answer_le {query : Query} (reads : query.writes = false) :
    (memory.answer now query).2.entryCount ≤ memory.entryCount := by
  let smaller (other : Memory) : Prop := other.entryCount ≤ memory.entryCount
  have untouched : smaller memory := Nat.le_refl _
  cases query with
  | count identity => exact untouched
  | perform operation =>
      cases operation with
      | isBlocked identity => exact guarded_snd smaller untouched untouched
      | increment identity => cases reads
      | block identity span => cases reads
      | reset identity =>
          apply guarded_snd smaller untouched
          have fewer := memory.counters.size_filter_le fun other _ => other ≠ identity
          unfold smaller entryCount
          split
          · exact Nat.le_refl _
          · exact Nat.add_le_add_right fewer _
      | ping => exact guarded_snd smaller untouched untouched
      | close => exact untouched

end Memory

/-- A check of a blocked identity leaves a store in memory as it was. -/
theorem Service.contents_of_blocked (service : Service) (address token : String)
    {timeline : Timeline Memory}
    (blocked : timeline.contents.blocked timeline.now (.resolve address token)) :
    (service.decideOn Memory.store address token timeline).2.contents = timeline.contents := by
  have looked : timeline.contents.perform timeline.now
      (.isBlocked (service.check address token).identity) =
        timeline.contents.guarded (.ok true, timeline.contents) := by
    rw [Memory.perform]
    congr 2
    exact congrArg Except.ok blocked
  rw [decideOn_eq, Check.run]
  cases obstacle : timeline.contents.obstacle? with
  | some fault =>
      rw [Memory.guarded_eq_of_obstacle obstacle] at looked
      rw [Check.runFrom_of_failed .lookup (Timeline.call_memory _ (congrArg Prod.fst looked)) rfl]
      exact congrArg Prod.snd looked
  | none =>
      rw [Memory.guarded_eq_of_open obstacle] at looked
      rw [Check.runFrom_of_decided .lookup (Timeline.call_memory _ (congrArg Prod.fst looked)) rfl]
      exact congrArg Prod.snd looked

/-! ## What a call leaves behind -/

namespace StoreCall

/-- The identity that a call wrote an entry for, if it did. -/
def wrote? : StoreCall → Option Identity
  | { operation := .increment subject, answer := .ok _, .. } => some subject
  | { operation := .block subject _, answer := .ok _, .. } => some subject
  | _ => none

variable {call : StoreCall} {identity : Identity} {expiry : Instant} {counter : Counter}

theorem wrote?_of_raises (raised : call.raises identity) : call.wrote? = some identity := by
  rcases raises_iff.mp raised with ⟨count, counted⟩
  rcases call with ⟨time, caller, operation, answer, before, after⟩
  cases operation with
  | increment subject =>
      cases answer with
      | error failure => simp [countFor?] at counted
      | ok result =>
          simp only [countFor?, Option.ite_none_right_eq_some] at counted
          rw [wrote?, counted.1]
  | _ => simp [countFor?] at counted

/-- A write leaves no dead entry. -/
theorem swept_of_wrote (performed : call.Performed) (wrote : call.wrote? = some identity)
    (positive : 0 < call.before.window.nanoseconds)
    (spans : ∀ subject span, call.operation = .block subject span → 0 < span.nanoseconds) :
    call.after.Swept call.time ∧ call.after.spoilt = false := by
  rcases call with ⟨time, caller, operation, answer, before, after⟩
  cases operation with
  | increment subject =>
      cases answer with
      | error failure => simp [wrote?] at wrote
      | ok count => exact Memory.swept_of_increment positive performed
  | block subject span =>
      cases answer with
      | error failure => simp [wrote?] at wrote
      | ok set => exact Memory.swept_of_block (spans subject span rfl) performed
  | _ => simp [wrote?] at wrote

/-- Where a counter comes from: it was there before, or the call opened its lifetime, or the call
raised it. -/
theorem counter_source (performed : call.Performed)
    (entry : call.after.counters.get? identity = some counter) :
    (call.before.counters.get? identity = some counter ∧ ¬call.raises identity) ∨
      (call.Opens identity ∧ counter = ⟨1, call.time.shift call.before.window⟩) ∨
      (call.raises identity ∧ ∃ older, call.before.counterAt? call.time identity = some older ∧
        counter = ⟨older.count + 1, older.expiry⟩) := by
  by_cases raised : call.raises identity
  · right
    rcases raises_iff.mp raised with ⟨count, counted⟩
    cases live : call.before.counterAt? call.time identity with
    | none =>
        have fresh := (opened performed counted live).2
        rw [entry] at fresh
        exact .inl ⟨⟨raised, live⟩, Option.some.inj fresh⟩
    | some older =>
        have next := (continued performed counted live).2
        rw [entry] at next
        exact .inr ⟨raised, older, rfl, Option.some.inj next⟩
  · left
    refine ⟨?_, raised⟩
    rw [performed.after_eq] at entry
    by_cases increments : call.operation = .increment identity
    · rcases call with ⟨time, caller, operation, answer, before, after⟩
      simp only at increments
      subst increments
      cases answer with
      | error failure => exact (Memory.held_of_error performed.answer_eq.symm).1 counter entry
      | ok count => exact absurd (by simp [raises, countFor?]) raised
    · exact Memory.counters_get?_of_perform increments entry

/-- Where a block comes from: it was there before, or the call set it. -/
theorem block_source (performed : call.Performed)
    (entry : call.after.blocks.get? identity = some expiry) :
    call.before.blocks.get? identity = some expiry ∨
      call.wrote? = some identity ∧
        ∃ span, call.operation = .block identity span ∧ expiry = call.time.shift span := by
  rcases entry_of_after performed entry with before | ⟨span, blocks, ends⟩
  · exact .inl before
  · rcases call with ⟨time, caller, operation, answer, before, after⟩
    simp only at blocks
    subst blocks
    cases answer with
    | error failure =>
        rw [performed.after_eq] at entry
        exact .inl ((Memory.held_of_error performed.answer_eq.symm).2 expiry entry)
    | ok set => exact .inr ⟨rfl, span, rfl, ends⟩

/-- A call that writes nothing adds no entry. -/
theorem entryCount_le (performed : call.Performed) (wroteNothing : call.wrote? = none) :
    call.after.entryCount ≤ call.before.entryCount := by
  rw [performed.after_eq]
  have failed {failure : Failure}
      (failed : (call.before.perform call.time call.operation).1 = .error failure) :
      (call.before.perform call.time call.operation).2.entryCount ≤ call.before.entryCount := by
    rcases Memory.perform_of_error failed with same | spoilt
    · rw [same]
    · rw [spoilt]
      exact Nat.zero_le _
  rcases call with ⟨time, caller, operation, answer, before, after⟩
  cases answer with
  | error failure => exact failed performed.answer_eq.symm
  | ok result =>
      have reads : (Query.perform operation).writes = false := by
        cases operation with
        | increment subject => cases wroteNothing
        | block subject span => cases wroteNothing
        | _ => rfl
      exact Memory.entryCount_answer_le reads

end StoreCall

/-- A counter counts the raises since the call that opened its lifetime, and ends one window after
that call. -/
def Counter.Counts (counter : Counter) (identity : Identity) (window : Duration)
    (calls : List StoreCall) : Prop :=
  ∃ earlier opening later, calls = earlier ++ opening :: later ∧ opening.Opens identity ∧
    counter.expiry = opening.time.shift window ∧
    counter.count = UInt64.ofNat (raisesOf identity (opening :: later)).length

/-- A block ends a length of time after a call that set it. -/
def Instant.Ends (expiry : Instant) (identity : Identity) (calls : List StoreCall) : Prop :=
  ∃ call ∈ calls, call.wrote? = some identity ∧
    ∃ span, call.operation = .block identity span ∧ expiry = call.time.shift span

/-- The entries of a store are explained by the calls that it has answered. -/
structure Memory.Recorded (memory : Memory) (window : Duration) (calls : List StoreCall) :
    Prop where
  window_eq : memory.window = window
  counters : ∀ identity counter, memory.counters.get? identity = some counter →
    counter.Counts identity window calls
  blocks : ∀ identity expiry, memory.blocks.get? identity = some expiry →
    expiry.Ends identity calls

section

variable {window : Duration} {past calls : List StoreCall} {call : StoreCall}
  {identity : Identity} {counter : Counter}

theorem raisesOf_append (first second : List StoreCall) :
    raisesOf identity (first ++ second) = raisesOf identity first ++ raisesOf identity second :=
  List.filter_append first second

theorem Counter.Counts.kept (counts : counter.Counts identity window past)
    (unraised : ¬call.raises identity) : counter.Counts identity window (past ++ [call]) := by
  rcases counts with ⟨earlier, opening, later, rfl, opens, ends, count⟩
  refine ⟨earlier, opening, later ++ [call], by simp, opens, ends, ?_⟩
  rw [← List.cons_append, raisesOf_append, raisesOf_cons_of_not_raise unraised, count]
  simp [raisesOf]

theorem Counter.Counts.raised (counts : counter.Counts identity window past)
    (raised : call.raises identity) :
    Counts ⟨counter.count + 1, counter.expiry⟩ identity window (past ++ [call]) := by
  rcases counts with ⟨earlier, opening, later, rfl, opens, ends, count⟩
  refine ⟨earlier, opening, later ++ [call], by simp, opens, ends, ?_⟩
  rw [← List.cons_append, raisesOf_append, raisesOf_cons_of_raise raised, List.length_append, count]
  exact (UInt64.ofNat_add _ _).symm

theorem Counter.counts_of_opens (opens : call.Opens identity) :
    Counts ⟨1, call.time.shift window⟩ identity window (past ++ [call]) := by
  refine ⟨past, call, [], rfl, opens, rfl, ?_⟩
  rw [raisesOf_cons_of_raise opens.1]
  rfl

theorem Memory.recorded_new (window : Duration) : (Memory.new window).Recorded window [] where
  window_eq := rfl
  counters := nofun
  blocks := nofun

/-- Every call keeps the entries explained. -/
theorem Memory.Recorded.after (recorded : call.before.Recorded window past)
    (performed : call.Performed) : call.after.Recorded window (past ++ [call]) where
  window_eq := (StoreCall.window_after performed).trans recorded.window_eq
  counters := by
    intro identity counter entry
    rcases StoreCall.counter_source performed entry with
      ⟨before, unraised⟩ | ⟨opens, rfl⟩ | ⟨raised, older, live, rfl⟩
    · exact (recorded.counters identity counter before).kept unraised
    · rw [recorded.window_eq]
      exact Counter.counts_of_opens opens
    · have held := (counterAt?_eq_some_iff.mp live).1
      exact (recorded.counters identity older held).raised raised
  blocks := by
    intro identity expiry entry
    rcases StoreCall.block_source performed entry with before | ⟨wrote, set⟩
    · rcases recorded.blocks identity expiry before with ⟨made, member, rest⟩
      exact ⟨made, List.mem_append_left _ member, rest⟩
    · exact ⟨call, by simp, wrote, set⟩

theorem StoreLog.recorded {start finish : Moment} (log : StoreLog start calls finish)
    (recorded : start.memory.Recorded window past) :
    finish.memory.Recorded window (past ++ calls) := by
  induction log generalizing past with
  | quiet later same =>
      rw [same, List.append_nil]
      exact recorded
  | @call start finish first rest later found performed continues ih =>
      rw [← found] at recorded
      have onward := ih (recorded.after performed)
      rwa [List.append_assoc, List.singleton_append] at onward

theorem Counter.Counts.positive_or_wrapped (counts : counter.Counts identity window calls) :
    1 ≤ counter.count ∨ UInt64.size ≤ (raisesOf identity calls).length := by
  rcases counts with ⟨earlier, opening, later, rfl, opens, ends, count⟩
  by_cases few : (raisesOf identity (opening :: later)).length < UInt64.size
  · left
    have one : 1 ≤ (raisesOf identity (opening :: later)).length := by
      simp [raisesOf_cons_of_raise opens.1]
    rw [UInt64.le_iff_toNat_le, count, UInt64.toNat_ofNat_of_lt' few]
    exact one
  · right
    rw [raisesOf_append, List.length_append]
    omega

/-! ## The recent writes -/

/-- The identities that were written less than a length of time before a point in time. -/
def activeWithin (span : Duration) (now : Instant) (calls : List StoreCall) : Finset Identity :=
  ((calls.filter fun call => now < call.time.shift span).filterMap StoreCall.wrote?).toFinset

theorem mem_activeWithin {span : Duration} {now : Instant} :
    identity ∈ activeWithin span now calls ↔
      ∃ call ∈ calls, now < call.time.shift span ∧ call.wrote? = some identity := by
  simp only [activeWithin, List.mem_toFinset, List.mem_filterMap, List.mem_filter,
    decide_eq_true_eq, and_assoc]

variable {memory : Memory} {now : Instant} {longest : Duration}

theorem Instant.lt_shift_longer {expiry made : Instant} {span : Duration}
    (ends : expiry = made.shift span) (shorter : span ≤ longest) (alive : now < expiry) :
    now < made.shift longest := by
  subst ends
  simp only [lt_iff, shift_nanoseconds, Duration.le_iff] at alive shorter ⊢
  omega

/-- What a swept store holds was written within the longest time that an entry can live. -/
theorem Memory.Recorded.entryCount_le (recorded : memory.Recorded window calls)
    (swept : memory.Swept now) (windowShorter : window ≤ longest)
    (spansShorter : ∀ call ∈ calls, ∀ subject span, call.operation = .block subject span →
      span ≤ longest) :
    memory.entryCount ≤ 2 * (activeWithin longest now calls).card := by
  have counted : memory.counters.keys ⊆ activeWithin longest now calls := by
    intro identity key
    rcases Option.isSome_iff_exists.mp (Table.mem_keys_iff.mp key) with ⟨counter, held⟩
    rcases recorded.counters identity counter held with
      ⟨earlier, opening, later, rfl, opens, ends, count⟩
    apply mem_activeWithin.mpr
    refine ⟨opening, by simp, ?_, StoreCall.wrote?_of_raises opens.1⟩
    exact Instant.lt_shift_longer ends windowShorter (swept.counters identity counter held)
  have blocked : memory.blocks.keys ⊆ activeWithin longest now calls := by
    intro identity key
    rcases Option.isSome_iff_exists.mp (Table.mem_keys_iff.mp key) with ⟨expiry, held⟩
    rcases recorded.blocks identity expiry held with ⟨call, made, wrote, span, blocks, ends⟩
    apply mem_activeWithin.mpr
    refine ⟨call, made, ?_, wrote⟩
    have shorter := spansShorter call made identity span blocks
    exact Instant.lt_shift_longer ends shorter (swept.blocks identity expiry held)
  have counters := Finset.card_le_card counted
  have blocks := Finset.card_le_card blocked
  rw [Table.card_keys] at counters blocks
  unfold entryCount
  split
  · exact Nat.zero_le _
  · omega

end

/-- A run of a store in memory never leaves more behind than it needs. Right after a write every
entry lives, so the entries are those of the identities that are counted or blocked then, and they
are at most twice as many as the identities that were written within the longest time that an entry
can live. Nothing but a write adds an entry. A counter that is held counts at least one raise, and
no identity has two counters or two blocks. A count is a machine word, so only as many raises as
there are words could take it back to zero. -/
theorem StoreLog.upkeep {window : Duration} {start : Instant} {calls : List StoreCall}
    {finish : Moment} (positive : 0 < window.nanoseconds)
    (spans : ∀ call ∈ calls, ∀ subject span, call.operation = .block subject span →
      0 < span.nanoseconds)
    (log : StoreLog ⟨start, .new window⟩ calls finish) :
    (∀ earlier call rest subject, calls = earlier ++ call :: rest → call.wrote? = some subject →
      call.after.Swept call.time ∧
        call.after.entryCount =
          {identity | (call.after.counterAt? call.time identity).isSome}.ncard +
            {identity | call.after.blocked call.time identity}.ncard ∧
        ∀ longest, window ≤ longest →
          (∀ made ∈ earlier ++ [call], ∀ subject span, made.operation = .block subject span →
            span ≤ longest) →
          call.after.entryCount ≤
            2 * (activeWithin longest call.time (earlier ++ [call])).card) ∧
      (∀ call ∈ calls, call.wrote? = none → call.after.entryCount ≤ call.before.entryCount) ∧
      (∀ now query, Query.writes query = false →
        (finish.memory.answer now query).2.entryCount ≤ finish.memory.entryCount) ∧
      (∀ (service : Service) address token (timeline : Timeline Memory),
        timeline.contents = finish.memory →
        timeline.contents.blocked timeline.now (.resolve address token) →
        (service.decideOn Memory.store address token timeline).2.contents.entryCount ≤
          finish.memory.entryCount) ∧
      (∀ identity counter, finish.memory.counters.get? identity = some counter →
        counter.Counts identity window calls ∧
          (1 ≤ counter.count ∨ UInt64.size ≤ (raisesOf identity calls).length)) ∧
      (finish.memory.counters.entries.map Prod.fst).Nodup ∧
      (finish.memory.blocks.entries.map Prod.fst).Nodup := by
  refine ⟨?_, ?_, ?_, ?_, ?_, finish.memory.counters.distinct, finish.memory.blocks.distinct⟩
  · rintro earlier call rest subject rfl wrote
    have made : call ∈ earlier ++ call :: rest := by simp
    have performed := log.performed made
    have before : call.before.Recorded window ([] ++ earlier) :=
      log.up_to.recorded (Memory.recorded_new window)
    have lasting : 0 < call.before.window.nanoseconds := by
      rwa [log.window_before made]
    have left := StoreCall.swept_of_wrote performed wrote lasting (spans call made)
    rcases left with ⟨swept, reachable⟩
    refine ⟨swept, swept.entryCount_eq reachable, ?_⟩
    intro longest windowShorter spansShorter
    exact (before.after performed).entryCount_le swept windowShorter spansShorter
  · intro call made wroteNothing
    exact StoreCall.entryCount_le (log.performed made) wroteNothing
  · intro now query reads
    exact Memory.entryCount_answer_le reads
  · intro service address token timeline same blocked
    rw [service.contents_of_blocked address token blocked, same]
  · intro identity counter held
    have recorded : finish.memory.Recorded window ([] ++ calls) :=
      log.recorded (Memory.recorded_new window)
    have counts := recorded.counters identity counter held
    exact ⟨counts, counts.positive_or_wrapped⟩

/-- The call that an operation makes at a store. -/
def Memory.callOf (memory : Memory) (time : Instant) (operation : Operation) : StoreCall where
  time := time
  caller := none
  operation := operation
  answer := (memory.perform time operation).1
  before := memory
  after := (memory.perform time operation).2

def firstVisit : StoreCall :=
  (Memory.new (.ofSeconds 1)).callOf .origin (.increment (.ip "a"))

/-- A raise for another identity two seconds later, in a window of one second. -/
def secondVisit : StoreCall :=
  firstVisit.after.callOf ⟨2000000000⟩ (.increment (.ip "b"))

/-- The second visit drops the counter of the first. -/
theorem upkeep_of_second_visit :
    secondVisit.after.Swept secondVisit.time ∧ secondVisit.after.entryCount ≤ 2 := by
  have log : StoreLog ⟨.origin, .new (.ofSeconds 1)⟩ [firstVisit, secondVisit]
      ⟨secondVisit.time, secondVisit.after⟩ :=
    .call (Nat.le_refl _) rfl rfl (.call (Nat.zero_le _) rfl rfl (.quiet (Nat.le_refl _) rfl))
  have unblocked : ∀ call ∈ [firstVisit, secondVisit], ∀ subject span,
      call.operation ≠ .block subject span := by
    intro call made subject span
    simp only [List.mem_cons, List.not_mem_nil, or_false] at made
    rcases made with rfl | rfl
    · exact nofun
    · exact nofun
  have kept := StoreLog.upkeep (by decide)
    (fun call made subject span blocks => absurd blocks (unblocked call made subject span)) log
  rcases kept.1 [firstVisit] secondVisit [] (.ip "b") rfl rfl with ⟨swept, entries, few⟩
  have one : (activeWithin (.ofSeconds 1) secondVisit.time [firstVisit, secondVisit]).card = 1 := by
    decide
  have bound := few (.ofSeconds 1) (Nat.le_refl _)
    (fun call made subject span blocks => absurd blocks (unblocked call made subject span))
  rw [List.singleton_append, one] at bound
  exact ⟨swept, bound⟩

end AdmissionControl

import AdmissionControl.Proofs.Store.LiveEntries

/-!
# Logs of a store in memory

A `StoreLog` is the complete list of the calls that take effect at a store between two moments, each
with what it answered and with the store before and after it. Since every call is atomic, whatever
runs side by side over one store leaves such a log behind, and what a log says about the counters
and blocks of an identity holds for every interleaving.

The proofs about logs follow the store from call to call. `StoreCall.counterAt?_after` and the
lemmas beside it say once what one call can do to the entries of an identity.
-/

namespace AdmissionControl

/-- One call as it took effect at a store in memory. -/
structure StoreCall where
  time : Instant
  /-- The number of the admission check that made the call; a call straight on the store has
  none. -/
  caller : Option Nat
  operation : Operation
  answer : Answer operation.Result
  before : Memory
  after : Memory

namespace StoreCall

/-- The answer and the store afterwards are those of the operation. -/
def Performed (call : StoreCall) : Prop :=
  call.before.perform call.time call.operation = (call.answer, call.after)

theorem Performed.answer_eq {call : StoreCall} (performed : call.Performed) :
    call.answer = (call.before.perform call.time call.operation).1 :=
  (congrArg Prod.fst performed).symm

theorem Performed.after_eq {call : StoreCall} (performed : call.Performed) :
    call.after = (call.before.perform call.time call.operation).2 :=
  (congrArg Prod.snd performed).symm

/-- The count that a call answered, if it raised the counter of an identity. -/
def countFor? (identity : Identity) : StoreCall → Option UInt64
  | { operation := .increment subject, answer := .ok count, .. } =>
      if subject = identity then some count else none
  | _ => none

def raises (identity : Identity) (call : StoreCall) : Bool :=
  (call.countFor? identity).isSome

/-- What a call answered, if it asked whether an identity is blocked. -/
def found? (identity : Identity) : StoreCall → Option Bool
  | { operation := .isBlocked subject, answer := .ok found, .. } =>
      if subject = identity then some found else none
  | _ => none

/-- A call begins a lifetime of the counter of an identity if it raises it and finds none that
lives. -/
def Opens (identity : Identity) (call : StoreCall) : Prop :=
  call.raises identity ∧ call.before.counterAt? call.time identity = none

variable {call : StoreCall} {identity : Identity} {later : Instant}

theorem raises_iff : call.raises identity ↔ ∃ count, call.countFor? identity = some count := by
  simp [raises, Option.isSome_iff_exists]

theorem operation_of_countFor? {count : UInt64}
    (counted : call.countFor? identity = some count) : call.operation = .increment identity := by
  rcases call with ⟨time, caller, operation, answer, before, after⟩
  cases operation with
  | increment subject =>
      cases answer with
      | error failure => simp [countFor?] at counted
      | ok result =>
          simp only [countFor?, Option.ite_none_right_eq_some] at counted
          rw [counted.1]
  | _ => simp [countFor?] at counted

theorem increment_of_countFor? {count : UInt64} (performed : call.Performed)
    (counted : call.countFor? identity = some count) :
    call.before.perform call.time (.increment identity) = (.ok count, call.after) := by
  rcases call with ⟨time, caller, operation, answer, before, after⟩
  cases operation with
  | increment subject =>
      cases answer with
      | error failure => simp [countFor?] at counted
      | ok result =>
          simp only [countFor?, Option.ite_none_right_eq_some, Option.some.injEq] at counted
          rcases counted with ⟨rfl, rfl⟩
          exact performed
  | _ => simp [countFor?] at counted

theorem countFor?_unique {other : Identity} {count more : UInt64}
    (counted : call.countFor? identity = some count) (again : call.countFor? other = some more) :
    other = identity ∧ more = count := by
  rcases call with ⟨time, caller, operation, answer, before, after⟩
  cases operation with
  | increment subject =>
      cases answer with
      | error failure => simp [countFor?] at counted
      | ok result =>
          simp only [countFor?, Option.ite_none_right_eq_some, Option.some.injEq] at counted again
          rcases counted with ⟨rfl, rfl⟩
          rcases again with ⟨rfl, rfl⟩
          exact ⟨rfl, rfl⟩
  | _ => simp [countFor?] at counted

theorem found?_of_countFor? {other : Identity} {count : UInt64}
    (counted : call.countFor? identity = some count) : call.found? other = none := by
  rcases call with ⟨time, caller, operation, answer, before, after⟩
  cases operation with
  | increment subject => rfl
  | _ => simp [countFor?] at counted

/-- A call that opens a lifetime answers one, and the lifetime ends one window later. -/
theorem opened (performed : call.Performed) {count : UInt64}
    (counted : call.countFor? identity = some count)
    (dead : call.before.counterAt? call.time identity = none) :
    count = 1 ∧
      call.after.counters.get? identity = some ⟨1, call.time.shift call.before.window⟩ :=
  Memory.raised_of_dead dead (increment_of_countFor? performed counted)

theorem continued (performed : call.Performed) {count : UInt64} {counter : Counter}
    (counted : call.countFor? identity = some count)
    (live : call.before.counterAt? call.time identity = some counter) :
    count = counter.count + 1 ∧
      call.after.counters.get? identity = some ⟨counter.count + 1, counter.expiry⟩ :=
  Memory.raised_of_live live (increment_of_countFor? performed counted)

theorem live_of_opened (performed : call.Performed) (raised : call.raises identity)
    (dead : call.before.counterAt? call.time identity = none)
    (positive : 0 < call.before.window.nanoseconds) :
    call.after.counterAt? call.time identity =
      some ⟨1, call.time.shift call.before.window⟩ := by
  rcases raises_iff.mp raised with ⟨count, counted⟩
  exact Memory.counterAt?_eq_some_iff.mpr
    ⟨(opened performed counted dead).2, Instant.lt_shift positive⟩

theorem live_of_continued (performed : call.Performed) (raised : call.raises identity)
    {counter : Counter} (live : call.before.counterAt? call.time identity = some counter) :
    call.after.counterAt? call.time identity = some ⟨counter.count + 1, counter.expiry⟩ := by
  rcases raises_iff.mp raised with ⟨count, counted⟩
  exact Memory.counterAt?_eq_some_iff.mpr
    ⟨(continued performed counted live).2, (Memory.counterAt?_eq_some_iff.mp live).2⟩

/-- An increment raises the counter, whatever it finds, unless the store cannot be reached or the
clock cannot hold the end of a window that begins now. -/
theorem raises_of_open (performed : call.Performed)
    (increments : call.operation = .increment identity)
    (reachable : call.before.obstacle? = none)
    (windowFits : (call.time.shift call.before.window).nanoseconds < Instant.horizon) :
    call.raises identity := by
  rcases call with ⟨time, caller, operation, answer, before, after⟩
  simp only at increments
  subst increments
  have kept : Operation.increment identity ≠ .close := nofun
  rcases (Memory.perform_of_open reachable kept windowFits nofun).1 with ⟨count, answered⟩
  have answer_eq : answer = .ok count := performed.answer_eq.trans answered
  simp [raises, countFor?, answer_eq]

/-- Only raises and resets change the counter of an identity. -/
theorem counterAt?_after (performed : call.Performed) (unraised : ¬call.raises identity)
    (unreset : call.operation ≠ .reset identity) (earlier : call.time ≤ later) :
    call.after.counterAt? later identity = call.before.counterAt? later identity := by
  rcases call with ⟨time, caller, operation, answer, before, after⟩
  by_cases increment : operation = .increment identity
  · subst increment
    cases answer with
    | error failure => exact Memory.counterAt?_of_increment_error earlier performed
    | ok count => exact absurd (by simp [raises, countFor?]) unraised
  · rw [performed.after_eq]
    exact Memory.counterAt?_perform earlier increment unreset

theorem counterAt?_of_after (performed : call.Performed) (unraised : ¬call.raises identity)
    (earlier : call.time ≤ later) {counter : Counter}
    (live : call.after.counterAt? later identity = some counter) :
    call.before.counterAt? later identity = some counter := by
  by_cases reset : call.operation = .reset identity
  · rw [performed.after_eq] at live
    exact Memory.counterAt?_of_perform earlier (by simp [reset]) live
  · rwa [counterAt?_after performed unraised reset earlier] at live

theorem window_after (performed : call.Performed) : call.after.window = call.before.window := by
  rw [performed.after_eq, Memory.perform_window]

end StoreCall

/-- A store in memory at a point in time. -/
structure Moment where
  now : Instant
  memory : Memory

/-- The calls that took effect at a store from one moment to another, and no others: each found the
store as the one before it left it, and time never went back. -/
inductive StoreLog : Moment → List StoreCall → Moment → Prop
  | quiet {start finish : Moment} (later : start.now ≤ finish.now)
      (same : finish.memory = start.memory) : StoreLog start [] finish
  | call {start finish : Moment} {first : StoreCall} {rest : List StoreCall}
      (later : start.now ≤ first.time) (found : first.before = start.memory)
      (performed : first.Performed) (continues : StoreLog ⟨first.time, first.after⟩ rest finish) :
      StoreLog start (first :: rest) finish

namespace StoreLog

variable {start middle finish : Moment} {calls more : List StoreCall} {identity : Identity}

theorem from_first {first : StoreCall} {rest : List StoreCall} (performed : first.Performed)
    (continues : StoreLog ⟨first.time, first.after⟩ rest finish) :
    StoreLog ⟨first.time, first.before⟩ (first :: rest) finish :=
  .call (Nat.le_refl _) rfl performed continues

theorem now_le (log : StoreLog start calls finish) : start.now ≤ finish.now := by
  induction log with
  | quiet later same => exact later
  | call later found performed continues ih => exact Nat.le_trans later ih

theorem le_time (log : StoreLog start calls finish) {call : StoreCall} (recorded : call ∈ calls) :
    start.now ≤ call.time := by
  induction log with
  | quiet later same => cases recorded
  | call later found performed continues ih =>
      rcases List.mem_cons.mp recorded with rfl | inRest
      · exact later
      · exact Nat.le_trans later (ih inRest)

theorem time_le (log : StoreLog start calls finish) {call : StoreCall} (recorded : call ∈ calls) :
    call.time ≤ finish.now := by
  induction log with
  | quiet later same => cases recorded
  | call later found performed continues ih =>
      rcases List.mem_cons.mp recorded with rfl | inRest
      · exact continues.now_le
      · exact ih inRest

theorem performed (log : StoreLog start calls finish) {call : StoreCall} (recorded : call ∈ calls) :
    call.Performed := by
  induction log with
  | quiet later same => cases recorded
  | call later found performed continues ih =>
      rcases List.mem_cons.mp recorded with rfl | inRest
      · exact performed
      · exact ih inRest

theorem begin_earlier {early : Moment} (log : StoreLog start calls finish)
    (earlier : early.now ≤ start.now) (same : early.memory = start.memory) :
    StoreLog early calls finish := by
  cases log with
  | quiet later unchanged => exact .quiet (Nat.le_trans earlier later) (unchanged.trans same.symm)
  | call later found performed continues =>
      exact .call (Nat.le_trans earlier later) (found.trans same.symm) performed continues

theorem append (first : StoreLog start calls middle) (second : StoreLog middle more finish) :
    StoreLog start (calls ++ more) finish := by
  induction first with
  | quiet later same => exact second.begin_earlier later same.symm
  | call later found performed continues ih => exact .call later found performed (ih second)

theorem split (log : StoreLog start (calls ++ more) finish) :
    ∃ middle, StoreLog start calls middle ∧ StoreLog middle more finish := by
  induction calls generalizing start with
  | nil => exact ⟨start, .quiet (Nat.le_refl _) rfl, log⟩
  | cons first rest ih =>
      cases log with
      | call later found performed continues =>
          rcases ih continues with ⟨middle, upTo, onward⟩
          exact ⟨middle, .call later found performed upTo, onward⟩

/-- The part of a log up to one of its calls, as that call found the store. -/
theorem up_to {earlier rest : List StoreCall} {call : StoreCall}
    (log : StoreLog start (earlier ++ call :: rest) finish) :
    StoreLog start earlier ⟨call.time, call.before⟩ := by
  rcases log.split with ⟨middle, before, onward⟩
  cases onward with
  | call later found performed continues =>
      have idle : StoreLog middle [] ⟨call.time, call.before⟩ := .quiet later found
      simpa using before.append idle

/-- The part of a log after one of its calls, as that call left the store. -/
theorem onward {earlier rest : List StoreCall} {call : StoreCall}
    (log : StoreLog start (earlier ++ call :: rest) finish) :
    StoreLog ⟨call.time, call.after⟩ rest finish := by
  rcases log.split with ⟨middle, _, onward⟩
  cases onward with
  | call later found performed continues => exact continues

theorem window_first {first : StoreCall} (found : first.before = start.memory)
    (performed : first.Performed) : first.after.window = start.memory.window := by
  rw [StoreCall.window_after performed, found]

theorem window_eq (log : StoreLog start calls finish) :
    finish.memory.window = start.memory.window := by
  induction log with
  | quiet later same => rw [same]
  | call later found performed continues ih =>
      rw [ih, window_first found performed]

theorem window_before (log : StoreLog start calls finish) {call : StoreCall}
    (recorded : call ∈ calls) : call.before.window = start.memory.window := by
  rcases List.append_of_mem recorded with ⟨earlier, rest, rfl⟩
  exact log.up_to.window_eq

end StoreLog

end AdmissionControl

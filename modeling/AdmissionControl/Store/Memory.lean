import AdmissionControl.Store.CounterStore
import AdmissionControl.Store.Table

/-!
# The store in memory

A store kept by one process. A counter lives for one window from its creation, a block until its own
end; an entry whose end has been reached counts as absent. Dead entries are swept out only when a
counter is raised or a block is set.

Where the clock cannot hold the end of an entry, the operation is abandoned in the middle and the
store is spoilt: nothing in it can be reached any more. A closed store stays closed, and says so
before anything else.
-/

namespace AdmissionControl

/-- The count of an identity within one window. -/
structure Counter where
  count : UInt64
  /-- The end of the window. -/
  expiry : Instant

structure Memory where
  /-- How long a counter lives. -/
  window : Duration
  counters : Table Identity Counter
  /-- The end of each block. -/
  blocks : Table Identity Instant
  closed : Bool
  /-- An operation was abandoned while it was changing the store. -/
  spoilt : Bool

namespace Memory

def new (window : Duration) : Memory where
  window
  counters := .empty
  blocks := .empty
  closed := false
  spoilt := false

/-- The store without the entries that are dead at a point in time. -/
def sweep (memory : Memory) (now : Instant) : Memory :=
  { memory with
    counters := memory.counters.retain fun counter => now < counter.expiry
    blocks := memory.blocks.retain fun expiry => now < expiry }

/-- Why the entries cannot be reached, if they cannot. -/
def obstacle? (memory : Memory) : Option Fault :=
  if memory.closed then some .storeClosed
  else if memory.spoilt then some (.internal "Failed to acquire storage lock")
  else none

/-- The count of an identity that lives at a point in time, or zero. -/
def count (memory : Memory) (now : Instant) (identity : Identity) : UInt64 :=
  if memory.spoilt then 0
  else
    match memory.counters.get? identity with
    | some counter => if now < counter.expiry then counter.count else 0
    | none => 0

/-- Whether an identity has a block that lives at a point in time. -/
def blocked (memory : Memory) (now : Instant) (identity : Identity) : Bool :=
  match memory.blocks.get? identity with
  | some expiry => now < expiry
  | none => false

/-- The number of entries held, dead ones included. -/
def entryCount (memory : Memory) : Nat :=
  if memory.spoilt then 0 else memory.counters.size + memory.blocks.size

/-- Raise the counter of an identity, which begins a new window if it has none. The end of a window
that began now has to be on the clock even where the counter is there already. -/
def increment (memory : Memory) (now : Instant) (identity : Identity) : Answer UInt64 × Memory :=
  let swept := memory.sweep now
  match now.after? memory.window with
  | none => (.error .abandoned, { swept with spoilt := true })
  | some expiry =>
      let counter := (swept.counters.get? identity).getD { count := 0, expiry }
      let raised := { counter with count := counter.count + 1 }
      (.ok raised.count, { swept with counters := swept.counters.insert identity raised })

/-- Block an identity from now on; an earlier block of it is replaced. -/
def block (memory : Memory) (now : Instant) (identity : Identity) (span : Duration) :
    Answer Unit × Memory :=
  let swept := memory.sweep now
  match now.after? span with
  | none => (.error .abandoned, { swept with spoilt := true })
  | some expiry => (.ok (), { swept with blocks := swept.blocks.insert identity expiry })

/-- Perform an operation that reaches for the entries, unless something is in its way. -/
def guarded {α : Type} (memory : Memory) (perform : Answer α × Memory) : Answer α × Memory :=
  match memory.obstacle? with
  | some fault => (.error (.reported fault), memory)
  | none => perform

def perform (memory : Memory) (now : Instant) :
    (operation : Operation) → Answer operation.Result × Memory
  | .isBlocked identity => memory.guarded (.ok (memory.blocked now identity), memory)
  | .increment identity => memory.guarded (memory.increment now identity)
  | .block identity span => memory.guarded (memory.block now identity span)
  | .reset identity =>
      memory.guarded (.ok (), { memory with counters := memory.counters.erase identity })
  | .ping => memory.guarded (.ok (), memory)
  | .close => (.ok (), { memory with closed := true })

/-- The store in memory; it answers at once. -/
def store : CounterStore Memory where
  perform operation now memory :=
    let (answer, after) := memory.perform now operation
    (.answers none answer, after)
  announce _ _ := []

end Memory

/-- The store in memory answers a call at once, whatever the deadline. -/
theorem Timeline.call_memory {timeline : Timeline Memory} {operation : Operation}
    {answer : Answer operation.Result} (deadline : Option Instant)
    (answered : (timeline.contents.perform timeline.now operation).1 = answer) :
    timeline.call Memory.store deadline operation =
      (.answered answer,
        { timeline with
          contents := (timeline.contents.perform timeline.now operation).2
          calls := timeline.calls ++ [(timeline.now, operation)] }) := by
  simp [call, Memory.store, answered]

end AdmissionControl

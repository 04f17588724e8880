import AdmissionControl.Log
import AdmissionControl.Store.Operation

/-!
# Counter stores and the time they take

A counter store is anything that performs the operations. A call takes effect at the store when it
is made; its answer may come at once, after a wait, or never (`Arrival`). A `Timeline` is the course
of events on one side of a store: the time, the store, what was asked of it and what was logged.

A call may be made under a deadline. An answer that is due by the deadline counts, one that is due
later does not: then the caller goes on at the deadline without it.
-/

namespace AdmissionControl

/-- How the answer to a call arrives. -/
inductive Arrival (α : Type) where
  /-- The answer comes at once, or after a wait. -/
  | answers (wait : Option Duration) (answer : Answer α)
  | hangs

/-- A counter store with contents of a given type. -/
structure CounterStore (Contents : Type) where
  /-- How the store answers an operation at a point in time, and its contents afterwards. -/
  perform : (operation : Operation) → Instant → Contents → Arrival operation.Result × Contents
  /-- What the store itself logs about an operation. -/
  announce : Operation → Contents → List LogEvent

/-- The course of events up to a point in time. -/
structure Timeline (Contents : Type) where
  now : Instant
  contents : Contents
  /-- The store calls in order, each with the time it was made at. -/
  calls : List (Instant × Operation)
  events : List LogEvent

/-- What became of a call that may have been made under a deadline. -/
inductive Reception (α : Type) where
  | answered (answer : Answer α)
  /-- The deadline passed without an answer. -/
  | expired
  /-- No answer ever comes, and there was no deadline. -/
  | unanswered

namespace Timeline

variable {Contents : Type}

/-- The course of events that begins with a store at a point in time. -/
def start (now : Instant) (contents : Contents) : Timeline Contents where
  now
  contents
  calls := []
  events := []

def log (timeline : Timeline Contents) (event : LogEvent) : Timeline Contents :=
  { timeline with events := timeline.events ++ [event] }

def logAll (timeline : Timeline Contents) (events : List LogEvent) : Timeline Contents :=
  { timeline with events := timeline.events ++ events }

def moveTo (timeline : Timeline Contents) (now : Instant) : Timeline Contents :=
  { timeline with now }

/-- Make a store call and wait for its answer, up to a deadline if there is one. -/
def call (timeline : Timeline Contents) (store : CounterStore Contents)
    (deadline : Option Instant) (operation : Operation) :
    Reception operation.Result × Timeline Contents :=
  let (arrival, contents) := store.perform operation timeline.now timeline.contents
  let called :=
    { timeline with
      contents
      calls := timeline.calls ++ [(timeline.now, operation)]
      events := timeline.events ++ store.announce operation timeline.contents }
  match arrival, deadline with
  | .answers none answer, _ => (.answered answer, called)
  | .answers (some wait) answer, none =>
      (.answered answer, called.moveTo (timeline.now.alarm wait))
  | .answers (some wait) answer, some limit =>
      let ready := timeline.now.alarm wait
      if ready ≤ limit then (.answered answer, called.moveTo ready)
      else (.expired, called.moveTo limit)
  | .hangs, none => (.unanswered, called)
  | .hangs, some limit => (.expired, called.moveTo limit)

end Timeline

end AdmissionControl

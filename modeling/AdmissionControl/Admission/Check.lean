import AdmissionControl.Admission.Decision
import AdmissionControl.Store.CounterStore

/-!
# The admission check

One check asks the store up to three questions, one after the other: is the identity blocked; what
is its count with this request; and, if that count is beyond the limit, set the block. The check is
written as a machine that waits for one answer at a time (`Check.Phase`), so that checks can be run
by themselves (`Check.run`), side by side, or be given up between two calls.
-/

namespace AdmissionControl

/-- One admission check: the identity, its limit, and how long to block it beyond the limit. -/
structure Check where
  identity : Identity
  limit : UInt64
  blockSpan : Duration

namespace Check

/-- The answer that a check is waiting for. -/
inductive Phase where
  | lookup
  /-- The count with this request. -/
  | count
  /-- That the block is set, after a count beyond the limit. -/
  | block (count : UInt64)
deriving DecidableEq

/-- How many calls there may be from a phase on. -/
def Phase.callsLeft : Phase → Nat
  | .lookup => 3
  | .count => 2
  | .block _ => 1

@[reducible] def operation (check : Check) : Phase → Operation
  | .lookup => .isBlocked check.identity
  | .count => .increment check.identity
  | .block _ => .block check.identity check.blockSpan

/-- Where a check stands after the answer to a phase: at a later phase, or at its end. -/
inductive Progress (phase : Phase) where
  | waiting (next : Phase) (later : next.callsLeft < phase.callsLeft)
  | decided (decision : Decision)

/-- What the answer to a phase leads to. -/
def advance (check : Check) : (phase : Phase) → (check.operation phase).Result → Progress phase
  | .lookup, true => .decided (.ofBlocked check.identity check.limit)
  | .lookup, false => .waiting .count (by decide)
  | .count, count =>
      if count ≤ check.limit then .decided (.ofCount check.identity check.limit count)
      else .waiting (.block count) (Nat.lt_succ_self 1)
  | .block count, () => .decided (.ofCount check.identity check.limit count)

def announcement (check : Check) : Phase → List LogEvent
  | .lookup => []
  | .count => []
  | .block count =>
      [{ level := .debug
         target := "ratelimiter::rate_limiter"
         message := "Limit exceeded, blocking"
         fields := [("identity", .text check.identity.text), ("count", .number count),
           ("limit", .number check.limit)] }]

variable {Contents : Type}

/-- Run a check from a phase to its end, up to a deadline if there is one. -/
def runFrom (check : Check) (store : CounterStore Contents) (deadline : Option Instant)
    (phase : Phase) (timeline : Timeline Contents) : Reception Decision × Timeline Contents :=
  match timeline.call store deadline (check.operation phase) with
  | (.answered (.ok result), after) =>
      match check.advance phase result with
      | .decided decision => (.answered (.ok decision), after)
      | .waiting next _ =>
          check.runFrom store deadline next (after.logAll (check.announcement next))
  | (.answered (.error failure), after) => (.answered (.error failure), after)
  | (.expired, after) => (.expired, after)
  | (.unanswered, after) => (.unanswered, after)
termination_by phase.callsLeft

def run (check : Check) (store : CounterStore Contents) (deadline : Option Instant)
    (timeline : Timeline Contents) : Reception Decision × Timeline Contents :=
  check.runFrom store deadline .lookup timeline

end Check

end AdmissionControl

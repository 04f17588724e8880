import AdmissionControl.Store.CounterStore

/-!
# A store that follows a script

A store without content, for trying the service against any behaviour of a store: each kind of
operation has a list of outcomes, which its calls use up in order. When the list is used up, nothing
is blocked, every count is one, and all else succeeds. Releasing a store is never waited for, so its
outcomes are answers.
-/

namespace AdmissionControl

/-- The outcomes that are still to come, by kind of operation. -/
structure Script where
  isBlocked : List (Arrival Bool)
  increment : List (Arrival UInt64)
  block : List (Arrival Unit)
  reset : List (Arrival Unit)
  ping : List (Arrival Unit)
  close : List (Answer Unit)

namespace Script

/-- The next outcome of a list, or a default, and the outcomes after it. -/
def next {Outcome : Type} (default : Outcome) : List Outcome → Outcome × List Outcome
  | [] => (default, [])
  | outcome :: rest => (outcome, rest)

def succeeds {α : Type} (value : α) : Arrival α :=
  .answers none (.ok value)

/-- The outcome of an operation, and the script after it. -/
def perform (script : Script) : (operation : Operation) → Arrival operation.Result × Script
  | .isBlocked _ =>
      let (outcome, rest) := next (succeeds false) script.isBlocked
      (outcome, { script with isBlocked := rest })
  | .increment _ =>
      let (outcome, rest) := next (succeeds 1) script.increment
      (outcome, { script with increment := rest })
  | .block _ _ =>
      let (outcome, rest) := next (succeeds ()) script.block
      (outcome, { script with block := rest })
  | .reset _ =>
      let (outcome, rest) := next (succeeds ()) script.reset
      (outcome, { script with reset := rest })
  | .ping =>
      let (outcome, rest) := next (succeeds ()) script.ping
      (outcome, { script with ping := rest })
  | .close =>
      let (answer, rest) := next (.ok ()) script.close
      (.answers none answer, { script with close := rest })

/-- The store that follows its script whatever the time. -/
def store : CounterStore Script where
  perform operation _ script := script.perform operation
  announce _ _ := []

end Script

end AdmissionControl

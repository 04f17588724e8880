/-!
# Time

Lengths of time and points on the clock that the service and its stores share. Both are exact to the
nanosecond, and a point is counted from the moment the clock was started.

The clock is a machine clock: it counts whole seconds in 63 bits, so a sum may fall outside its
range (`Instant.after?`), and its alarms ring on whole milliseconds only (`Instant.alarm`).
-/

namespace AdmissionControl

/-- A length of time, in nanoseconds. -/
structure Duration where
  nanoseconds : Nat
deriving DecidableEq

namespace Duration

def nanosecondsPerSecond : Nat := 1000000000

def nanosecondsPerMillisecond : Nat := 1000000

/-- A whole number of seconds and some nanoseconds beyond them. -/
def ofParts (seconds nanoseconds : Nat) : Duration :=
  ⟨seconds * nanosecondsPerSecond + nanoseconds⟩

def ofSeconds (seconds : Nat) : Duration :=
  ofParts seconds 0

def ofMilliseconds (milliseconds : Nat) : Duration :=
  ⟨milliseconds * nanosecondsPerMillisecond⟩

def seconds (duration : Duration) : Nat :=
  duration.nanoseconds / nanosecondsPerSecond

def subsecond (duration : Duration) : Nat :=
  duration.nanoseconds % nanosecondsPerSecond

def milliseconds (duration : Duration) : Nat :=
  duration.nanoseconds / nanosecondsPerMillisecond

instance : LE Duration := ⟨fun left right => left.nanoseconds ≤ right.nanoseconds⟩

theorem le_iff {left right : Duration} : left ≤ right ↔ left.nanoseconds ≤ right.nanoseconds :=
  Iff.rfl

/-- A length of time is its whole seconds and the nanoseconds beyond them. -/
theorem ofParts_seconds_subsecond (duration : Duration) :
    ofParts duration.seconds duration.subsecond = duration := by
  obtain ⟨nanoseconds⟩ := duration
  simp only [ofParts, seconds, subsecond, Duration.mk.injEq]
  exact Nat.div_add_mod' nanoseconds nanosecondsPerSecond

end Duration

/-- A point in time, in nanoseconds since the clock was started. -/
structure Instant where
  nanoseconds : Nat
deriving DecidableEq

namespace Instant

def origin : Instant := ⟨0⟩

instance : LE Instant := ⟨fun left right => left.nanoseconds ≤ right.nanoseconds⟩
instance : LT Instant := ⟨fun left right => left.nanoseconds < right.nanoseconds⟩

instance (left right : Instant) : Decidable (left ≤ right) :=
  inferInstanceAs (Decidable (left.nanoseconds ≤ right.nanoseconds))

instance (left right : Instant) : Decidable (left < right) :=
  inferInstanceAs (Decidable (left.nanoseconds < right.nanoseconds))

theorem le_iff {left right : Instant} : left ≤ right ↔ left.nanoseconds ≤ right.nanoseconds :=
  Iff.rfl

theorem lt_iff {left right : Instant} : left < right ↔ left.nanoseconds < right.nanoseconds :=
  Iff.rfl

/-- The clock counts whole seconds in 63 bits; it cannot hold a point this far out. -/
def horizon : Nat := 9223372036854775808 * Duration.nanosecondsPerSecond

/-- The point a length of time later, if the clock can hold it. -/
def after? (start : Instant) (span : Duration) : Option Instant :=
  if start.nanoseconds + span.nanoseconds < horizon then
    some ⟨start.nanoseconds + span.nanoseconds⟩
  else
    none

/-- The point a length of time later, whether the clock can hold it or not. -/
def shift (start : Instant) (span : Duration) : Instant :=
  ⟨start.nanoseconds + span.nanoseconds⟩

@[simp]
theorem shift_nanoseconds (start : Instant) (span : Duration) :
    (start.shift span).nanoseconds = start.nanoseconds + span.nanoseconds := rfl

def since (finish start : Instant) : Duration :=
  ⟨finish.nanoseconds - start.nanoseconds⟩

/-- The first whole millisecond that is not before a point. -/
def roundUp (instant : Instant) : Instant :=
  ⟨(instant.nanoseconds + (Duration.nanosecondsPerMillisecond - 1))
    / Duration.nanosecondsPerMillisecond * Duration.nanosecondsPerMillisecond⟩

/-- How far ahead an alarm is set when the time asked for is beyond the clock's range: thirty years
of 365 days. -/
def farAhead : Duration := .ofSeconds (30 * 365 * 86400)

/-- When an alarm rings that is set at `start` to wait for `span`: alarms ring on whole
milliseconds, never early. -/
def alarm (start : Instant) (span : Duration) : Instant :=
  ((start.after? span).getD ⟨start.nanoseconds + farAhead.nanoseconds⟩).roundUp

theorem le_roundUp (instant : Instant) : instant ≤ instant.roundUp := by
  simp only [le_iff, roundUp, Duration.nanosecondsPerMillisecond]
  omega

/-- An alarm never rings before it was set. -/
theorem le_alarm (start : Instant) (span : Duration) : start ≤ start.alarm span := by
  have rounded := le_roundUp ((start.after? span).getD ⟨start.nanoseconds + farAhead.nanoseconds⟩)
  simp only [le_iff] at rounded ⊢
  refine Nat.le_trans ?_ rounded
  unfold after?
  split <;> simp

theorem after?_eq_some_iff {start finish : Instant} {span : Duration} :
    start.after? span = some finish ↔
      finish.nanoseconds = start.nanoseconds + span.nanoseconds ∧ finish.nanoseconds < horizon := by
  obtain ⟨finish⟩ := finish
  unfold after?
  split
  · simp only [Option.some.injEq, Instant.mk.injEq]
    omega
  · simp only [reduceCtorEq, false_iff]
    omega

end Instant

end AdmissionControl

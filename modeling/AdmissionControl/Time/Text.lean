import AdmissionControl.Time

/-!
# How a length of time is written

A length of time is written in the largest of the units second, millisecond, microsecond and
nanosecond of which it holds at least one, as a decimal without superfluous zeros: `500ms`, `1.5s`,
`1.5µs`, `0ns`.
-/

namespace AdmissionControl.Duration

/-- The digits after a decimal point: `count` places of `value`, without zeros at the end. -/
def fractionDigits (count value : Nat) : List Char :=
  let digits := Nat.toDigits 10 value
  let padded := List.replicate (count - digits.length) '0' ++ digits
  (padded.reverse.dropWhile (· = '0')).reverse

/-- A number of nanoseconds in a unit of `10 ^ places` nanoseconds. -/
def inUnit (nanoseconds places : Nat) (unit : String) : String :=
  let whole := nanoseconds / Nat.pow 10 places
  match fractionDigits places (nanoseconds % Nat.pow 10 places) with
  | [] => Nat.repr whole ++ unit
  | digits => Nat.repr whole ++ "." ++ String.ofList digits ++ unit

def text (duration : Duration) : String :=
  let nanoseconds := duration.nanoseconds
  if 1000000000 ≤ nanoseconds then inUnit nanoseconds 9 "s"
  else if 1000000 ≤ nanoseconds then inUnit nanoseconds 6 "ms"
  else if 1000 ≤ nanoseconds then inUnit nanoseconds 3 "µs"
  else inUnit nanoseconds 0 "ns"

end AdmissionControl.Duration

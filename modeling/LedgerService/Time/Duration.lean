/-!
# Durations

Spans of time in whole nanoseconds, and their text in the largest of the units `s`, `ms`, `µs` and `ns` that is
not larger than the span.
-/

namespace LedgerService

/-- A span of time. -/
structure Duration where
  nanoseconds : Nat
deriving DecidableEq, Repr, Inhabited, Ord

namespace Duration

/-- No time at all; as a threshold it means that there is none. -/
def zero : Duration := ⟨0⟩

/-- Whole seconds and the nanoseconds beyond them. -/
def ofParts (seconds nanoseconds : Nat) : Duration := ⟨seconds * 1000000000 + nanoseconds⟩

/-- A number of milliseconds. -/
def ofMillis (millis : Nat) : Duration := ⟨millis * 1000000⟩

/-- A number of seconds. -/
def ofSeconds (seconds : Nat) : Duration := ⟨seconds * 1000000000⟩

/-- The whole seconds of the span. -/
def seconds (duration : Duration) : Nat := duration.nanoseconds / 1000000000

/-- A third of the span, in whole nanoseconds. -/
def third (duration : Duration) : Duration := ⟨duration.nanoseconds / 3⟩

/-- The digits after the point for a rest of units `10 ^ -places`, without trailing zeros. -/
def fraction (rest places : Nat) : String :=
  let digits := Nat.toDigits 10 rest
  let padded := List.replicate (places - digits.length) '0' ++ digits
  let kept := (padded.reverse.dropWhile (· = '0')).reverse
  if kept.isEmpty then "" else "." ++ String.ofList kept

/-- A count of units of `10 ^ places` nanoseconds, with its exact fraction. -/
def inUnit (duration : Duration) (places : Nat) (name : String) : String :=
  toString (duration.nanoseconds / Nat.pow 10 places) ++
    fraction (duration.nanoseconds % Nat.pow 10 places) places ++ name

/-- The text of the span, exact, without a point when it is a whole number of units. -/
def text (duration : Duration) : String :=
  if 1000000000 ≤ duration.nanoseconds then duration.inUnit 9 "s"
  else if 1000000 ≤ duration.nanoseconds then duration.inUnit 6 "ms"
  else if 1000 ≤ duration.nanoseconds then duration.inUnit 3 "µs"
  else duration.inUnit 0 "ns"

end Duration

end LedgerService

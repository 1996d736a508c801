/-!
# Wall clocks

The time of day as the service sees it, in milliseconds since the epoch; before the epoch it is negative.
-/

namespace LedgerService

/-- A reading of the wall clock. -/
structure ClockReading where
  milliseconds : Int64
deriving DecidableEq, Repr, Inhabited

namespace ClockReading

/-- The whole seconds since the epoch, rounded down. -/
def seconds (reading : ClockReading) : Int64 := Int64.ofInt (reading.milliseconds.toInt.fdiv 1000)

end ClockReading

end LedgerService

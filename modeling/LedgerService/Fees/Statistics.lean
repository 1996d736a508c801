/-!
# Fee statistics

Extremes, most frequent value and percentiles of a collection of fees.
-/

namespace LedgerService

/-- The statistics of the fees of some ledgers. -/
structure FeeStatistics where
  maximum : UInt64
  minimum : UInt64
  mode : UInt64
  p10 : UInt64
  p20 : UInt64
  p30 : UInt64
  p40 : UInt64
  p50 : UInt64
  p60 : UInt64
  p70 : UInt64
  p80 : UInt64
  p90 : UInt64
  p95 : UInt64
  p99 : UInt64
  /-- The number of fees. -/
  transactions : UInt32
  /-- The number of ledgers. -/
  ledgers : UInt32
deriving DecidableEq, Repr, Inhabited

namespace FeeStatistics

/-- The statistics of no fees at all. -/
def blank (ledgers : UInt32) : FeeStatistics :=
  ⟨0, 0, 0, 0, 0, 0, 0, 0, 0, 0, 0, 0, 0, 0, 0, ledgers⟩

/-- The state of a scan for the longest run: the value whose run is the longest so far, and its repetitions. -/
structure RunScan where
  mode : UInt64
  longest : Nat
  /-- The value of the current run. -/
  current : UInt64
  /-- How often the current run repeats its first element. -/
  repetitions : Nat
deriving DecidableEq, Repr

/-- A finished run counts if it is longer than every one before it. -/
def RunScan.close (scan : RunScan) : RunScan :=
  if scan.longest < scan.repetitions then
    { scan with mode := scan.current, longest := scan.repetitions }
  else scan

/-- Takes one more element of a sorted list into account. -/
def RunScan.step (scan : RunScan) (fee : UInt64) : RunScan :=
  if fee = scan.current then { scan with repetitions := scan.repetitions + 1 }
  else { scan.close with current := fee, repetitions := 0 }

/-- The value of the first longest run of a sorted list, given its first element and the others. -/
def longestRun (first : UInt64) (others : List UInt64) : UInt64 :=
  (others.foldl RunScan.step ⟨first, 0, first, 0⟩).close.mode

/--
The position, counted from one, of the nearest-rank percentile among so many values: their part of a hundred, rounded
up.
-/
def rank (percent count : UInt64) : UInt64 :=
  let product := percent * count
  max 1 (min count (if product % 100 = 0 then product / 100 else product / 100 + 1))

/-- The nearest-rank percentile of a sorted array. -/
def percentile (sorted : Array UInt64) (percent : UInt64) : UInt64 :=
  sorted[(rank percent (UInt64.ofNat sorted.size)).toNat - 1]?.getD 0

/-- The statistics of the given fees of so many ledgers. -/
def ofFees (fees : List UInt64) (ledgers : UInt32) : FeeStatistics :=
  match fees.mergeSort (fun left right => decide (left ≤ right)) with
  | [] => blank ledgers
  | first :: others =>
    let sorted := (first :: others).toArray
    { maximum := others.getLast?.getD first
      minimum := first
      mode := longestRun first others
      p10 := percentile sorted 10
      p20 := percentile sorted 20
      p30 := percentile sorted 30
      p40 := percentile sorted 40
      p50 := percentile sorted 50
      p60 := percentile sorted 60
      p70 := percentile sorted 70
      p80 := percentile sorted 80
      p90 := percentile sorted 90
      p95 := percentile sorted 95
      p99 := percentile sorted 99
      transactions := UInt32.ofNat sorted.size
      ledgers }

end FeeStatistics

end LedgerService

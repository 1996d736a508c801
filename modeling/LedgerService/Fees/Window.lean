import LedgerService.Fees.BucketRing
import LedgerService.Fees.Statistics

/-!
# Fee windows

The fees of the last ledgers together with their statistics, which are computed anew whenever a ledger is
accepted.
-/

namespace LedgerService

/-- The fees of the last ledgers. -/
structure FeeWindow where
  ring : BucketRing (List UInt64)
  /-- The statistics of all fees in the ring. -/
  statistics : FeeStatistics

namespace FeeWindow

/-- A window without ledgers, for a positive number of them. -/
def empty (retention : UInt32) : Except FeeFailure FeeWindow := do
  return ⟨← BucketRing.empty retention, FeeStatistics.blank 0⟩

/-- The fees of all retained ledgers, oldest ledger first. -/
def fees (ring : BucketRing (List UInt64)) : List UInt64 := ring.toList.flatMap Bucket.content

/-- Accepts the fees of the next ledger, for which the statistics are computed anew, or refuses those of another one. -/
def offer (window : FeeWindow) (bucket : Bucket (List UInt64)) : FeeWindow × Except FeeFailure Unit :=
  match window.ring.offer bucket with
  | (ring, .error failure) => ({ window with ring }, .error failure)
  | (ring, .ok _) => (⟨ring, FeeStatistics.ofFees (fees ring) (UInt32.ofNat ring.size)⟩, .ok ())

/-- The window that accepted fees make. -/
def append (window : FeeWindow) (bucket : Bucket (List UInt64)) : Except FeeFailure FeeWindow :=
  let (larger, result) := window.offer bucket
  result.map fun _ => larger

/-- The sequence of the newest retained ledger. -/
def latest? (window : FeeWindow) : Option UInt32 := window.ring.newest?.map Bucket.sequence

end FeeWindow

end LedgerService

/-!
# Ranges of sequence numbers

Inclusive ranges of stored ledger sequences.
-/

namespace LedgerService

/-- The sequences from the first to the last; none if the last lies before the first. -/
structure SequenceRange where
  first : UInt32
  last : UInt32
deriving DecidableEq, Repr, Inhabited

namespace SequenceRange

/-- The difference, or zero where it would be negative. -/
def monus (left right : UInt32) : UInt32 := if left < right then 0 else left - right

/-- One more than the distance between the ends, which is taken as zero if they are in the wrong order. -/
def length (range : SequenceRange) : UInt32 := monus range.last range.first + 1

/-- The last sequence lies before the first. -/
def isEmpty (range : SequenceRange) : Bool := range.last < range.first

/-- The last sequences of the range, at most so many. -/
def tail (range : SequenceRange) (count : UInt32) : SequenceRange :=
  ⟨max (monus range.last (monus count 1)) range.first, range.last⟩

end SequenceRange

end LedgerService

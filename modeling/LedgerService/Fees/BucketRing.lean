import LedgerService.Failure

/-!
# Rings of buckets

A bounded queue of one bucket per ledger. Buckets arrive in the order of their sequence numbers and without gaps;
once the ring is full, each new bucket takes the place of the oldest one, and the position of the oldest one moves
on.
-/

namespace LedgerService

/-- What was gathered from one ledger. -/
structure Bucket (α : Type) where
  sequence : UInt32
  closeTime : Int64
  content : α
deriving DecidableEq, Repr, Inhabited

/-- The buckets of the last ledgers, at most `capacity` of them. -/
structure BucketRing (α : Type) where
  /-- The buckets; once the ring is full the oldest one stands at `start`. -/
  slots : Array (Bucket α)
  capacity : Nat
  start : Nat
  size_le : slots.size ≤ capacity
  start_lt : start < capacity
  start_eq : slots.size < capacity → start = 0

namespace BucketRing

variable {α : Type}

/-- A ring without buckets, for a positive number of ledgers. -/
def empty (retention : UInt32) : Except FeeFailure (BucketRing α) :=
  if positive : 0 < retention.toNat then
    .ok ⟨#[], retention.toNat, 0, by simp, positive, fun _ => rfl⟩
  else .error .emptyRetention

/-- The number of buckets. -/
def size (ring : BucketRing α) : Nat := ring.slots.size

/-- The bucket at a position, the oldest one at zero. -/
def get? (ring : BucketRing α) (index : Nat) : Option (Bucket α) :=
  if index < ring.size then ring.slots[(ring.start + index) % ring.size]? else none

/-- The buckets from the oldest to the newest. -/
def toList (ring : BucketRing α) : List (Bucket α) := (List.range ring.size).filterMap ring.get?

/-- The sequence number that the next bucket has to have; any will do while there are no buckets. -/
def expected? (ring : BucketRing α) : Option UInt32 :=
  (ring.get? 0).map fun oldest => oldest.sequence + UInt32.ofNat ring.size

/-- Puts a bucket behind the newest one, for which the oldest one may have to go. -/
def insert (ring : BucketRing α) (bucket : Bucket α) : BucketRing α × Option (Bucket α) :=
  if room : ring.slots.size < ring.capacity then
    ({ ring with
        slots := ring.slots.push bucket
        size_le := by rw [Array.size_push]; exact room
        start_eq := fun _ => ring.start_eq room }, none)
  else
    have full : ring.slots.size = ring.capacity := Nat.le_antisymm ring.size_le (Nat.le_of_not_lt room)
    have inside : ring.start < ring.slots.size := full ▸ ring.start_lt
    ({ ring with
        slots := ring.slots.set ring.start bucket
        start := (ring.start + 1) % ring.capacity
        size_le := by simpa using ring.size_le
        start_lt := Nat.mod_lt _ (Nat.lt_of_le_of_lt (Nat.zero_le _) ring.start_lt)
        start_eq := fun less => absurd less (by simpa using room) },
      some ring.slots[ring.start])

/-- The complaint about a bucket that is not the next one in sequence. -/
def objection? (ring : BucketRing α) (bucket : Bucket α) : Option FeeFailure :=
  match ring.expected? with
  | some expected => if expected = bucket.sequence then none else some (.gap expected bucket.sequence)
  | none => none

/-- Accepts the next bucket in sequence, and gives the bucket that had to go, or refuses another one. -/
def offer (ring : BucketRing α) (bucket : Bucket α) : BucketRing α × Except FeeFailure (Option (Bucket α)) :=
  match ring.objection? bucket with
  | some failure => (ring, .error failure)
  | none =>
    let (larger, gone) := ring.insert bucket
    (larger, .ok gone)

/-- The ring that an accepted bucket makes, and the bucket that had to go for it. -/
def append (ring : BucketRing α) (bucket : Bucket α) : Except FeeFailure (BucketRing α × Option (Bucket α)) :=
  let (larger, result) := ring.offer bucket
  result.map fun gone => (larger, gone)

/-- The newest bucket. -/
def newest? (ring : BucketRing α) : Option (Bucket α) :=
  if ring.size = 0 then none else ring.get? (ring.size - 1)

end BucketRing

end LedgerService

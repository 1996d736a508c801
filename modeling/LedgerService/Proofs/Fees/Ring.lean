import LedgerService.Fees.BucketRing
import Mathlib.Data.List.DropRight
import Mathlib.Data.List.Rotate

/-!
# The buckets of a ring

A ring as a queue: its list of buckets is its array, rotated to the oldest bucket. Putting a bucket behind the
newest one keeps as many of the newest buckets as the ring has room for (`BucketRing.toList_insert`). A ring of
consecutive buckets expects the sequence after its newest bucket (`BucketRing.expected?_eq`), accepts a bucket with
this sequence and refuses any other.
-/

namespace LedgerService

variable {α : Type}

/-- The later bucket is the one of the next ledger. -/
def Bucket.Precedes (earlier later : Bucket α) : Prop := later.sequence = earlier.sequence + 1

/-- From the oldest bucket, the number of buckets leads to the sequence after the newest one. -/
theorem sequence_of_precedes (oldest : Bucket α) (others : List (Bucket α))
    (consecutive : (oldest :: others).IsChain Bucket.Precedes) :
    oldest.sequence + UInt32.ofNat (oldest :: others).length =
      ((oldest :: others).getLast (by simp)).sequence + 1 := by
  induction others generalizing oldest with
  | nil => rfl
  | cons next rest ih =>
      rcases List.isChain_cons_cons.mp consecutive with ⟨precedes, later⟩
      have last := ih next later
      rw [show next.sequence = oldest.sequence + 1 from precedes] at last
      rw [List.getLast_cons (by simp), ← last]
      have longer : UInt32.ofNat (oldest :: next :: rest).length = 1 + UInt32.ofNat (next :: rest).length := by
        rw [List.length_cons, Nat.add_comm]
        exact UInt32.ofNat_add 1 _
      rw [longer, UInt32.add_assoc]

theorem filterMap_range_getElem? (buckets : List α) :
    (List.range buckets.length).filterMap (fun index => buckets[index]?) = buckets := by
  induction buckets using List.reverseRecOn with
  | nil => rfl
  | append_singleton earlier last ih =>
      have inside : ∀ index ∈ List.range earlier.length, (earlier ++ [last])[index]? = earlier[index]? := by
        intro index member
        exact List.getElem?_append_left (List.mem_range.mp member)
      rw [List.length_append, List.length_singleton, List.range_succ, List.filterMap_append,
        List.filterMap_congr inside, ih]
      simp

theorem rotate_set {buckets : List α} {start : Nat} (bucket : α) (inside : start < buckets.length) :
    (buckets.set start bucket).rotate (start + 1) = (buckets.rotate start).tail ++ [bucket] := by
  have before : (buckets.set start bucket).take (start + 1) = buckets.take start ++ [bucket] := by
    have room : (buckets.take start).length ≤ start := by
      rw [List.length_take]
      omega
    rw [List.take_set, List.take_succ_eq_append_getElem inside, List.set_append_right _ _ room]
    simp [Nat.min_eq_left (Nat.le_of_lt inside)]
  have after : (buckets.set start bucket).drop (start + 1) = buckets.drop (start + 1) :=
    List.drop_set_of_lt (by omega)
  rw [List.rotate_eq_drop_append_take (by rw [List.length_set]; omega), after, before,
    List.rotate_eq_drop_append_take (by omega), List.drop_eq_getElem_cons inside, List.cons_append, List.tail_cons,
    List.append_assoc]

namespace BucketRing

variable (ring : BucketRing α)

theorem toList_eq_rotate : ring.toList = ring.slots.toList.rotate ring.start := by
  rw [← filterMap_range_getElem? (ring.slots.toList.rotate ring.start), List.length_rotate]
  unfold toList
  apply List.filterMap_congr
  intro index member
  have inside : index < ring.size := List.mem_range.mp member
  rw [List.getElem?_rotate inside, get?, if_pos inside, Nat.add_comm, Array.getElem?_toList]
  rfl

@[simp]
theorem length_toList : ring.toList.length = ring.size := by
  rw [toList_eq_rotate, List.length_rotate]
  rfl

theorem length_toList_le : ring.toList.length ≤ ring.capacity := by
  rw [length_toList]
  exact ring.size_le

theorem get?_eq (index : Nat) : ring.get? index = ring.toList[index]? := by
  unfold get?
  by_cases inside : index < ring.size
  · rw [if_pos inside, toList_eq_rotate, List.getElem?_rotate inside, Nat.add_comm, Array.getElem?_toList]
    rfl
  · rw [if_neg inside, List.getElem?_eq_none]
    rw [length_toList]
    omega

theorem newest?_eq : ring.newest? = ring.toList.getLast? := by
  rw [newest?, get?_eq, List.getLast?_eq_getElem?, length_toList]
  by_cases none : ring.size = 0
  · rw [if_pos none, List.getElem?_eq_none]
    rw [length_toList]
    omega
  · rw [if_neg none]

@[simp]
theorem insert_capacity (bucket : Bucket α) : (ring.insert bucket).1.capacity = ring.capacity := by
  unfold insert
  split <;> rfl

theorem empty_of_positive {retention : UInt32} (positive : 0 < retention) :
    ∃ ring, BucketRing.empty (α := α) retention = .ok ring ∧ ring.capacity = retention.toNat ∧ ring.toList = [] := by
  have room : 0 < retention.toNat := positive
  refine ⟨_, dif_pos room, rfl, ?_⟩
  rw [toList_eq_rotate]
  exact List.rotate_nil 0

/-- While there is room, nothing has to go. -/
theorem toList_insert_of_room (bucket : Bucket α) (room : ring.size < ring.capacity) :
    (ring.insert bucket).1.toList = ring.toList ++ [bucket] := by
  have start : ring.start = 0 := ring.start_eq room
  unfold size at room
  rw [toList_eq_rotate, toList_eq_rotate, insert, dif_pos room]
  simp [start]

/-- In a full ring the bucket takes the place of the oldest one, and the next one is the oldest. -/
theorem toList_insert_of_full (bucket : Bucket α) (full : ring.size = ring.capacity) :
    (ring.insert bucket).1.toList = ring.toList.tail ++ [bucket] := by
  have noRoom : ¬ring.slots.size < ring.capacity := by
    unfold size at full
    omega
  have inside : ring.start < ring.slots.toList.length := by
    have within := ring.start_lt
    unfold size at full
    simp only [Array.length_toList]
    omega
  have length : (ring.slots.toList.set ring.start bucket).length = ring.capacity := by
    rw [List.length_set, ← full]
    rfl
  rw [toList_eq_rotate, toList_eq_rotate, insert, dif_neg noRoom]
  simp only [Array.toList_set]
  rw [← length, List.rotate_mod]
  exact rotate_set bucket inside

/-- The ring keeps the newest buckets, as many as it has room for. -/
theorem toList_insert (bucket : Bucket α) :
    (ring.insert bucket).1.toList = (ring.toList ++ [bucket]).rtake ring.capacity := by
  have bound := ring.length_toList_le
  rw [length_toList] at bound
  rcases Nat.lt_or_eq_of_le bound with room | full
  · rw [toList_insert_of_room ring bucket room, List.rtake]
    have nothing : (ring.toList ++ [bucket]).length - ring.capacity = 0 := by
      rw [List.length_append, length_toList, List.length_singleton]
      omega
    rw [nothing, List.drop_zero]
  · rw [toList_insert_of_full ring bucket full, List.rtake]
    have one : (ring.toList ++ [bucket]).length - ring.capacity = 1 := by
      rw [List.length_append, length_toList, List.length_singleton]
      omega
    have occupied : ring.toList ≠ [] := by
      apply List.ne_nil_of_length_pos
      have within := ring.start_lt
      rw [length_toList]
      omega
    rw [one, List.drop_one, List.tail_append_of_ne_nil occupied]

/-- The bucket that has to go and those that stay are the ones from before, and the new one behind them. -/
theorem insert_conserves (bucket : Bucket α) :
    (ring.insert bucket).2.toList ++ (ring.insert bucket).1.toList = ring.toList ++ [bucket] := by
  have bound : ring.size ≤ ring.capacity := ring.size_le
  rcases Nat.lt_or_eq_of_le bound with room | full
  · have nothing : (ring.insert bucket).2 = none := by
      unfold size at room
      rw [insert, dif_pos room]
    rw [nothing, toList_insert_of_room ring bucket room]
    rfl
  · have noRoom : ¬ring.slots.size < ring.capacity := by
      unfold size at full
      omega
    have inside : ring.start < ring.slots.size := by
      have within := ring.start_lt
      unfold size at full
      omega
    have oldest : ring.toList.head? = (ring.insert bucket).2 := by
      rw [List.head?_eq_getElem?, ← get?_eq, get?, size, if_pos (Nat.lt_of_le_of_lt (Nat.zero_le _) inside),
        Nat.add_zero, Nat.mod_eq_of_lt inside, Array.getElem?_eq_getElem inside, insert, dif_neg noRoom]
    have occupied : ring.toList ≠ [] := by
      apply List.ne_nil_of_length_pos
      have within := ring.start_lt
      rw [length_toList]
      omega
    rw [← oldest, toList_insert_of_full ring bucket full, List.head?_eq_some_head occupied, Option.toList_some,
      ← List.append_assoc, List.singleton_append, List.cons_head_tail]

theorem expected?_eq (consecutive : ring.toList.IsChain Bucket.Precedes) :
    ring.expected? = ring.toList.getLast?.map fun newest => newest.sequence + 1 := by
  have length : ring.size = ring.toList.length := ring.length_toList.symm
  rw [expected?, get?_eq, length]
  cases buckets : ring.toList with
  | nil => rfl
  | cons oldest others =>
      rw [buckets] at consecutive
      rw [List.getLast?_eq_some_getLast (by simp), Option.map_some, ← sequence_of_precedes oldest others consecutive]
      rfl

variable {ring} {bucket : Bucket α}

theorem objection?_of_precedes (consecutive : ring.toList.IsChain Bucket.Precedes)
    (next : ∀ newest ∈ ring.toList.getLast?, newest.Precedes bucket) : ring.objection? bucket = none := by
  rw [objection?, expected?_eq ring consecutive]
  cases last : ring.toList.getLast? with
  | none => rfl
  | some newest =>
      have precedes : bucket.sequence = newest.sequence + 1 := next newest last
      rw [Option.map_some, precedes]
      exact if_pos rfl

theorem objection?_of_gap (consecutive : ring.toList.IsChain Bucket.Precedes) {newest : Bucket α}
    (last : ring.toList.getLast? = some newest) (gap : ¬newest.Precedes bucket) :
    ring.objection? bucket = some (.gap (newest.sequence + 1) bucket.sequence) := by
  rw [objection?, expected?_eq ring consecutive, last]
  apply if_neg
  intro same
  exact gap same.symm

theorem offer_of_precedes (consecutive : ring.toList.IsChain Bucket.Precedes)
    (next : ∀ newest ∈ ring.toList.getLast?, newest.Precedes bucket) :
    ring.offer bucket = ((ring.insert bucket).1, .ok (ring.insert bucket).2) := by
  rw [offer, objection?_of_precedes consecutive next]

/-- What a ring refuses leaves it as it is. -/
theorem offer_of_gap (consecutive : ring.toList.IsChain Bucket.Precedes) {newest : Bucket α}
    (last : ring.toList.getLast? = some newest) (gap : ¬newest.Precedes bucket) :
    ring.offer bucket = (ring, .error (.gap (newest.sequence + 1) bucket.sequence)) := by
  rw [offer, objection?_of_gap consecutive last gap]

/-- A ring of consecutive buckets accepts the next one, and refuses any other. -/
theorem offer_cases (consecutive : ring.toList.IsChain Bucket.Precedes) (bucket : Bucket α) :
    ((∀ newest ∈ ring.toList.getLast?, newest.Precedes bucket) ∧
      ring.offer bucket = ((ring.insert bucket).1, .ok (ring.insert bucket).2)) ∨
    ∃ newest ∈ ring.toList.getLast?, ¬newest.Precedes bucket ∧
      ring.offer bucket = (ring, .error (.gap (newest.sequence + 1) bucket.sequence)) := by
  by_cases next : ∀ newest ∈ ring.toList.getLast?, newest.Precedes bucket
  · left
    exact ⟨next, offer_of_precedes consecutive next⟩
  · right
    rcases not_forall₂.mp next with ⟨newest, last, gap⟩
    exact ⟨newest, last, gap, offer_of_gap consecutive last gap⟩

end BucketRing

end LedgerService

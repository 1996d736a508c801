import LedgerService.Proofs.Ledger.Order
import Mathlib.Data.List.DropRight

/-!
# Members of a range

The sequences of a range, in order, and none if the last lies before the first (`SequenceRange.members`). A tail has the
last of them (`SequenceRange.members_tail`), and of two tails the shorter counts (`SequenceRange.tail_tail`).

A range has no length below one, and no tail of fewer ledgers: the length takes the distance between the ends to be zero
if they are in the wrong order, and a tail takes a count of zero for one. So the length is the number of the members only
if there are any, and a tail has as many of them as it was asked for only if it was asked for one at least, or if there
are none (`SequenceRange.length_and_tails`).
-/

namespace LedgerService.SequenceRange

/-- The sequences of the range, in order. -/
def members (range : SequenceRange) : List UInt32 :=
  (List.range' range.first.toNat (range.last.toNat + 1 - range.first.toNat)).map UInt32.ofNat

section

variable {range : SequenceRange}

theorem length_members : range.members.length = range.last.toNat + 1 - range.first.toNat := by
  rw [members, List.length_map, List.length_range']

theorem toNat_of_mem_range' {number : Nat}
    (member : number ∈ List.range' range.first.toNat (range.last.toNat + 1 - range.first.toNat)) :
    (UInt32.ofNat number).toNat = number := by
  have bound := range.last.toNat_lt
  rw [List.mem_range'_1] at member
  exact UInt32.toNat_ofNat_of_lt' (by change _ < 4294967296; omega)

theorem mem_members {sequence : UInt32} :
    sequence ∈ range.members ↔ range.first ≤ sequence ∧ sequence ≤ range.last := by
  rw [members, List.mem_map, UInt32.le_iff_toNat_le, UInt32.le_iff_toNat_le]
  constructor
  · rintro ⟨number, member, rfl⟩
    rw [toNat_of_mem_range' member]
    rw [List.mem_range'_1] at member
    omega
  · intro between
    exact ⟨sequence.toNat, List.mem_range'_1.mpr (by omega), UInt32.ofNat_toNat⟩

theorem pairwise_members : range.members.Pairwise (· < ·) := by
  rw [members, List.pairwise_map]
  apply List.Pairwise.imp_of_mem _ List.pairwise_lt_range'
  intro earlier later earlierMember laterMember less
  rw [UInt32.lt_iff_toNat_lt, toNat_of_mem_range' earlierMember, toNat_of_mem_range' laterMember]
  exact less

theorem isEmpty_iff : range.isEmpty = true ↔ range.members = [] := by
  rw [isEmpty, decide_eq_true_eq, UInt32.lt_iff_toNat_lt, ← List.length_eq_zero_iff, length_members]
  omega

/-- The length of a range that has not all sequences. -/
theorem toNat_length (proper : range ≠ ⟨0, 4294967295⟩) : range.length.toNat = max 1 range.members.length := by
  have first := range.first.toNat_lt
  have last := range.last.toNat_lt
  have distance := toNat_monus range.last range.first
  have below : monus range.last range.first ≠ 4294967295 := by
    intro whole
    apply proper
    rw [whole] at distance
    change 4294967295 = _ at distance
    have least : range.first = 0 := UInt32.toNat_inj.mp (by rw [UInt32.toNat_zero]; omega)
    have greatest : range.last = 4294967295 := UInt32.toNat_inj.mp (by change _ = 4294967295; omega)
    rw [← least, ← greatest]
  rw [length, ClosedLedger.toNat_succ below, distance, length_members]
  omega

/-- A tail has the last members, and at least one if there are any. -/
theorem members_tail (count : UInt32) : (range.tail count).members = range.members.rtake (max 1 count.toNat) := by
  rw [List.rtake, length_members, members, members, last_tail, ← List.map_drop, List.drop_range', toNat_first_tail]
  congr 2
  · omega
  · omega

theorem members_tail_eq_iff (count : UInt32) :
    (range.tail count).members = range.members.rtake (min count.toNat range.members.length) ↔
      range.isEmpty = true ∨ count ≠ 0 := by
  rw [members_tail, isEmpty_iff, ← List.length_eq_zero_iff, ← UInt32.toNat_inj.ne, UInt32.toNat_zero]
  constructor
  · intro same
    have lengths := congrArg List.length same
    rw [List.rtake, List.rtake, List.length_drop, List.length_drop] at lengths
    omega
  · intro asked
    rw [List.rtake, List.rtake]
    congr 1
    omega

/-- Of two tails the shorter counts. -/
theorem tail_tail (range : SequenceRange) (one other : UInt32) :
    (range.tail one).tail other = range.tail (min one other) := by
  have first : ((range.tail one).tail other).first = (range.tail (min one other)).first := by
    apply UInt32.toNat_inj.mp
    rw [toNat_first_tail, toNat_first_tail, toNat_first_tail, last_tail, UInt32.toNat_min]
    omega
  exact congrArg (SequenceRange.mk · range.last) first

/--
How many ledgers a range has, and which are in its tails. The members are the sequences between the ends, each once and
in order. The length is their number, but never below one, so it is their number just if there are any. A tail has the
last members, as many as it was asked for or all of them, but at least one if there are any; so it has as many as it was
asked for, if there are so many, just if it was asked for one at least, or if there are none. Of two tails the shorter
counts.
-/
theorem length_and_tails (range : SequenceRange) (proper : range ≠ ⟨0, 4294967295⟩) (one other : UInt32) :
    (∀ sequence, sequence ∈ range.members ↔ range.first ≤ sequence ∧ sequence ≤ range.last) ∧
    range.members.Pairwise (· < ·) ∧
    (range.isEmpty = true ↔ range.members = []) ∧
    range.length.toNat = max 1 range.members.length ∧
    (range.length.toNat = range.members.length ↔ range.isEmpty = false) ∧
    (range.tail one).members = range.members.rtake (max 1 one.toNat) ∧
    ((range.tail one).members = range.members.rtake (min one.toNat range.members.length) ↔
      range.isEmpty = true ∨ one ≠ 0) ∧
    ((range.tail one).tail other).members = (range.tail (min one other)).members := by
  refine ⟨fun _ => mem_members, pairwise_members, isEmpty_iff, toNat_length proper, ?_, members_tail one,
    members_tail_eq_iff one, by rw [tail_tail]⟩
  rw [toNat_length proper, ← Bool.not_eq_true, isEmpty_iff, ← List.length_eq_zero_iff]
  omega

/-- The last three sequences of all. -/
theorem length_and_tails_lastThree :
    let range : SequenceRange := ⟨4294967293, 4294967295⟩
    range.length.toNat = 3 ∧ (range.tail 5).members = range.members ∧
      ((range.tail 5).tail 2).members = [4294967294, 4294967295] := by
  intro range
  rcases length_and_tails range (by decide) 5 2 with ⟨-, -, -, length, -, tail, -, twice⟩
  rcases length_and_tails range (by decide) (min 5 2) 0 with ⟨-, -, -, -, -, shorter, -, -⟩
  exact ⟨length.trans (by decide), tail.trans (by decide), twice.trans (shorter.trans (by decide))⟩

/-- A range without members has the length one, and a tail of no ledgers has a member. -/
theorem length_of_empty_is_one :
    let reversed : SequenceRange := ⟨5, 3⟩
    let ten : SequenceRange := ⟨10, 20⟩
    reversed.isEmpty = true ∧ reversed.members = [] ∧ reversed.length = 1 ∧ (ten.tail 0).members = [20] := by
  decide

end

end LedgerService.SequenceRange

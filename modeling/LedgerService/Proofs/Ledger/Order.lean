import LedgerService.Ledger.Range
import LedgerService.Proofs.Fees.Book
import Mathlib.Data.List.Perm.Subperm

/-!
# Ledgers in the order of their sequences

A list of ledgers with ascending sequences, as a store keeps it, and the part of it from a sequence on, as a store is
read. If the sequences are also consecutive and do not start over at zero, that part is known by its length: the last
sequences of the range are those of the last ledgers (`ClosedLedger.since_tail`).
-/

namespace LedgerService

namespace SequenceRange

theorem toNat_monus (left right : UInt32) : (monus left right).toNat = left.toNat - right.toNat := by
  unfold monus
  split
  case isTrue less =>
    rw [UInt32.lt_iff_toNat_lt] at less
    rw [UInt32.toNat_zero]
    omega
  case isFalse least => exact UInt32.toNat_sub_of_le _ _ (UInt32.not_lt.mp least)

theorem toNat_max (left right : UInt32) : (max left right).toNat = max left.toNat right.toNat := by
  change (if left ≤ right then right else left).toNat = _
  split
  case isTrue ordered => rw [Nat.max_eq_right (UInt32.le_iff_toNat_le.mp ordered)]
  case isFalse greater => rw [Nat.max_eq_left (Nat.le_of_not_le fun less => greater (UInt32.le_iff_toNat_le.mpr less))]

theorem toNat_first_tail (range : SequenceRange) (count : UInt32) :
    (range.tail count).first.toNat = max (range.last.toNat - (count.toNat - 1)) range.first.toNat := by
  rw [tail, toNat_max, toNat_monus, toNat_monus, UInt32.toNat_one]

theorem last_tail (range : SequenceRange) (count : UInt32) : (range.tail count).last = range.last := rfl

end SequenceRange

namespace ClosedLedger

/-- The sequences grow. -/
def Ascending (ledgers : List ClosedLedger) : Prop :=
  ledgers.Pairwise fun earlier later => earlier.sequence < later.sequence

/-- The ledgers from a sequence on. -/
def since (start : UInt32) (ledgers : List ClosedLedger) : List ClosedLedger :=
  ledgers.filter fun ledger => start ≤ ledger.sequence

/-- The sequences of the first and the last of some ledgers. -/
def ends? (ledgers : List ClosedLedger) : Option SequenceRange :=
  match ledgers.head?, ledgers.getLast? with
  | some first, some last => some ⟨first.sequence, last.sequence⟩
  | _, _ => none

/-- The sequences are consecutive, and none follows the greatest one. -/
structure Consecutive (ledgers : List ClosedLedger) : Prop where
  chain : ledgers.IsChain Precedes
  unwrapped : ∀ ledger ∈ ledgers.dropLast, ledger.sequence ≠ 4294967295

section

variable {ledgers : List ClosedLedger}

theorem toNat_succ {sequence : UInt32} (below : sequence ≠ 4294967295) :
    (sequence + 1).toNat = sequence.toNat + 1 := by
  have small := sequence.toNat_lt
  have different : sequence.toNat ≠ 4294967295 := fun same => below (UInt32.toNat_inj.mp same)
  rw [UInt32.toNat_add]
  exact Nat.mod_eq_of_lt (by change sequence.toNat + 1 < 2 ^ 32; omega)

theorem ne_greatest_of_lt {sequence other : UInt32} (less : sequence < other) : sequence ≠ 4294967295 := by
  intro greatest
  have bound := other.toNat_lt
  rw [greatest, UInt32.lt_iff_toNat_lt] at less
  change 4294967295 < other.toNat at less
  omega

theorem since_mem {start : UInt32} {ledger : ClosedLedger} :
    ledger ∈ since start ledgers ↔ ledger ∈ ledgers ∧ start ≤ ledger.sequence := by
  rw [since, List.mem_filter, decide_eq_true_eq]

theorem since_since {start later : UInt32} (ordered : start ≤ later) :
    since later (since start ledgers) = since later ledgers := by
  unfold since
  rw [List.filter_filter]
  apply List.filter_congr
  intro ledger _
  rw [← Bool.decide_and, decide_eq_decide]
  constructor
  · exact And.left
  · intro inside
    exact ⟨inside, UInt32.le_trans ordered inside⟩

theorem since_eq_self {start : UInt32} (least : ∀ ledger ∈ ledgers, start ≤ ledger.sequence) :
    since start ledgers = ledgers := by
  rw [since, List.filter_eq_self]
  intro ledger member
  exact decide_eq_true (least ledger member)

theorem since_eq_nil {start : UInt32} (least : ∀ ledger ∈ ledgers, ledger.sequence < start) :
    since start ledgers = [] := by
  rw [since, List.filter_eq_nil_iff]
  intro ledger member inside
  exact absurd (of_decide_eq_true inside) (UInt32.not_le.mpr (least ledger member))

theorem since_append (start : UInt32) (front back : List ClosedLedger) :
    since start (front ++ back) = since start front ++ since start back :=
  List.filter_append front back

theorem ends_eq_some {range : SequenceRange} (ends : ends? ledgers = some range) :
    ∃ first last, ledgers.head? = some first ∧ ledgers.getLast? = some last ∧
      range = ⟨first.sequence, last.sequence⟩ := by
  rw [ends?] at ends
  split at ends
  case h_1 first last found newest => exact ⟨first, last, found, newest, (Option.some.inj ends).symm⟩
  case h_2 => cases ends

theorem ends_of_mem {ledger : ClosedLedger} (member : ledger ∈ ledgers) : ∃ range, ends? ledgers = some range := by
  cases ledgers with
  | nil => cases member
  | cons first others =>
      rw [ends?, List.head?_cons, List.getLast?_cons]
      exact ⟨_, rfl⟩

theorem ends_eq_none (none : ends? ledgers = none) : ledgers = [] := by
  cases ledgers with
  | nil => rfl
  | cons first others =>
      rw [ends?, List.head?_cons, List.getLast?_cons] at none
      cases none

/-- The ledgers from one of them on. -/
theorem Ascending.since_own {front rest : List ClosedLedger} {ledger : ClosedLedger}
    (ascending : Ascending (front ++ ledger :: rest)) :
    since ledger.sequence (front ++ ledger :: rest) = ledger :: rest := by
  rcases List.pairwise_append.mp ascending with ⟨-, after, across⟩
  rw [since_append, since_eq_nil fun earlier member => across earlier member ledger List.mem_cons_self, List.nil_append]
  apply since_eq_self
  intro later member
  rcases List.mem_cons.mp member with rfl | member
  · exact UInt32.le_refl _
  · exact UInt32.le_of_lt ((List.pairwise_cons.mp after).1 later member)

/-- The ledgers from the first one on. -/
theorem Ascending.since_of_head (ascending : Ascending ledgers) {oldest : ClosedLedger}
    (head : ledgers.head? = some oldest) : since oldest.sequence ledgers = ledgers := by
  rcases List.head?_eq_some_iff.mp head with ⟨others, rfl⟩
  have whole : Ascending ([] ++ oldest :: others) := ascending
  exact whole.since_own

theorem Ascending.since_suffix (ascending : Ascending ledgers) (start : UInt32) : since start ledgers <:+ ledgers := by
  induction ledgers with
  | nil => exact List.suffix_refl _
  | cons first others ih =>
      rcases List.pairwise_cons.mp ascending with ⟨least, ordered⟩
      by_cases inside : start ≤ first.sequence
      · have whole : since start (first :: others) = first :: others := by
          apply since_eq_self
          intro ledger member
          rcases List.mem_cons.mp member with rfl | later
          · exact inside
          · exact UInt32.le_trans inside (UInt32.le_of_lt (least ledger later))
        rw [whole]
      · have rest : since start (first :: others) = since start others := by
          rw [since, List.filter_cons, if_neg (by simpa using inside), since]
        rw [rest]
        exact (ih ordered).trans (List.suffix_cons first others)

/-- The ledgers after one of those from a sequence on. -/
theorem Ascending.since_next (ascending : Ascending ledgers) {start : UInt32} {front rest : List ClosedLedger}
    {ledger : ClosedLedger} (parts : since start ledgers = front ++ ledger :: rest)
    (below : ledger.sequence ≠ 4294967295) : since (ledger.sequence + 1) ledgers = rest := by
  have next := toNat_succ below
  have inside : start ≤ ledger.sequence := (since_mem.mp (parts ▸ List.mem_append_right front List.mem_cons_self)).2
  have ordered : Ascending (front ++ ledger :: rest) := by
    rw [← parts]
    exact ascending.filter _
  rcases List.pairwise_append.mp ordered with ⟨-, after, across⟩
  rw [← since_since (show start ≤ ledger.sequence + 1 by rw [UInt32.le_iff_toNat_le] at inside ⊢; omega), parts,
    since_append, since_eq_nil, List.nil_append, since, List.filter_cons, if_neg, ← since, since_eq_self]
  · intro later member
    have greater := (List.pairwise_cons.mp after).1 later member
    rw [UInt32.lt_iff_toNat_lt] at greater
    rw [UInt32.le_iff_toNat_le]
    omega
  · rw [decide_eq_true_eq, UInt32.le_iff_toNat_le]
    omega
  · intro earlier member
    have less := across earlier member ledger List.mem_cons_self
    rw [UInt32.lt_iff_toNat_lt] at less ⊢
    omega

/-- No ledgers follow the one with the greatest sequence. -/
theorem Ascending.since_last (ascending : Ascending ledgers) {start : UInt32} {front rest : List ClosedLedger}
    {ledger : ClosedLedger} (parts : since start ledgers = front ++ ledger :: rest)
    (greatest : ∀ other ∈ ledgers, other.sequence ≤ ledger.sequence) : rest = [] := by
  apply List.eq_nil_iff_forall_not_mem.mpr
  intro later inside
  have ordered : Ascending (front ++ ledger :: rest) := by
    rw [← parts]
    exact ascending.filter _
  rcases List.pairwise_append.mp ordered with ⟨-, after, -⟩
  have among : later ∈ since start ledgers := by
    rw [parts]
    exact List.mem_append_right front (List.mem_cons_of_mem ledger inside)
  exact UInt32.not_lt.mpr (greatest later (since_mem.mp among).1) ((List.pairwise_cons.mp after).1 later inside)

theorem Ascending.le_last (ascending : Ascending ledgers) {newest : ClosedLedger}
    (last : ledgers.getLast? = some newest) : ∀ ledger ∈ ledgers, ledger.sequence ≤ newest.sequence := by
  rcases List.getLast?_eq_some_iff.mp last with ⟨earlier, rfl⟩
  intro ledger member
  rcases List.mem_append.mp member with before | final
  · exact UInt32.le_of_lt ((List.pairwise_append.mp ascending).2.2 ledger before newest (List.mem_singleton_self _))
  · rw [List.mem_singleton.mp final]
    exact UInt32.le_refl _

/-- There are no more ascending ledgers than sequences for them. -/
theorem Ascending.length_since_le (ascending : Ascending ledgers) (start : UInt32) {last : UInt32}
    (greatest : ∀ ledger ∈ ledgers, ledger.sequence ≤ last) :
    (since start ledgers).length ≤ last.toNat + 1 - start.toNat := by
  have distinct : ((since start ledgers).map fun ledger => ledger.sequence.toNat).Nodup := by
    refine List.pairwise_map.mpr ((ascending.filter _).imp ?_)
    intro earlier later less
    exact Nat.ne_of_lt (UInt32.lt_iff_toNat_lt.mp less)
  have within : (since start ledgers).map (fun ledger => ledger.sequence.toNat) ⊆
      List.range' start.toNat (last.toNat + 1 - start.toNat) := by
    intro number member
    rcases List.mem_map.mp member with ⟨ledger, inside, rfl⟩
    rcases since_mem.mp inside with ⟨own, after⟩
    have before := UInt32.le_iff_toNat_le.mp (greatest ledger own)
    rw [UInt32.le_iff_toNat_le] at after
    rw [List.mem_range'_1]
    omega
  have fewer := (distinct.subperm within).length_le
  rwa [List.length_map, List.length_range'] at fewer

/-- The range of ascending sequences bounds them. -/
theorem Ascending.bounds (ascending : Ascending ledgers) {range : SequenceRange} (ends : ends? ledgers = some range) :
    (∃ newest ∈ ledgers, newest.sequence = range.last) ∧ (∀ ledger ∈ ledgers, ledger.sequence ≤ range.last) ∧
      range.first ≤ range.last := by
  rcases ends_eq_some ends with ⟨first, newest, found, last, rfl⟩
  have greatest := ascending.le_last last
  exact ⟨⟨newest, List.mem_of_getLast? last, rfl⟩, greatest, greatest first (List.mem_of_head? found)⟩

namespace Consecutive

theorem ascending (consecutive : Consecutive ledgers) : Ascending ledgers := by
  rcases consecutive with ⟨chain, unwrapped⟩
  apply List.isChain_iff_pairwise.mp
  induction ledgers with
  | nil => exact .nil
  | cons first others ih =>
      cases others with
      | nil => exact .singleton first
      | cons second more =>
          rw [List.dropLast_cons_cons] at unwrapped
          rw [List.isChain_cons_cons] at chain ⊢
          refine ⟨?_, ih chain.2 fun ledger member => unwrapped ledger (List.mem_cons_of_mem _ member)⟩
          have next := toNat_succ (unwrapped first List.mem_cons_self)
          rw [UInt32.lt_iff_toNat_lt, chain.1, next]
          omega

theorem of_append_right {front back : List ClosedLedger} (consecutive : Consecutive (front ++ back)) :
    Consecutive back := by
  refine ⟨consecutive.chain.right_of_append, ?_⟩
  intro ledger member
  apply consecutive.unwrapped
  rw [List.dropLast_append_of_ne_nil (List.ne_nil_of_mem (List.mem_of_mem_dropLast member))]
  exact List.mem_append_right front member

/-- Consecutive ledgers are counted by their sequences. -/
theorem toNat_last {first : ClosedLedger} {others : List ClosedLedger} (consecutive : Consecutive (first :: others)) :
    ∀ newest ∈ (first :: others).getLast?, newest.sequence.toNat = first.sequence.toNat + others.length := by
  induction others generalizing first with
  | nil =>
      intro newest found
      cases found
      rfl
  | cons second more ih =>
      intro newest found
      rw [List.getLast?_cons_cons] at found
      have rest : Consecutive (second :: more) :=
        of_append_right (show Consecutive ([first] ++ second :: more) from consecutive)
      have unwrapped := consecutive.unwrapped first (by rw [List.dropLast_cons_cons]; exact List.mem_cons_self)
      have chain := consecutive.chain
      rw [List.isChain_cons_cons] at chain
      have next := toNat_succ unwrapped
      rw [ih rest newest found, chain.1, next, List.length_cons]
      omega

/-- The last ledgers of consecutive ones have the last sequences of their range. -/
theorem since_tail (consecutive : Consecutive ledgers) {range : SequenceRange} (ends : ends? ledgers = some range)
    {count : UInt32} (positive : 0 < count) : since (range.tail count).first ledgers = ledgers.rtake count.toNat := by
  rcases ends_eq_some ends with ⟨first, newest, found, last, rfl⟩
  have counted : 0 < count.toNat := UInt32.lt_iff_toNat_lt.mp positive
  have whole : newest.sequence.toNat + 1 = first.sequence.toNat + ledgers.length := by
    rcases ledgers with _ | ⟨head, rest⟩
    · cases found
    · cases found
      rw [consecutive.toNat_last newest last, List.length_cons, Nat.add_assoc]
  have parts : ledgers.take (ledgers.length - count.toNat) ++ ledgers.rtake count.toNat = ledgers :=
    List.take_append_drop _ _
  have before : (ledgers.take (ledgers.length - count.toNat)).length = ledgers.length - count.toNat :=
    List.length_take_of_le (Nat.sub_le _ _)
  have size : (ledgers.rtake count.toNat).length = min count.toNat ledgers.length := by
    rw [List.rtake, List.length_drop]
    omega
  have nonempty : 0 < ledgers.length := List.length_pos_of_mem (List.mem_of_getLast? last)
  rcases kept : ledgers.rtake count.toNat with _ | ⟨oldest, others⟩
  · rw [kept, List.length_nil] at size
    omega
  · rw [kept] at parts size
    rw [List.length_cons] at size
    have distance := (parts ▸ consecutive).of_append_right.toNat_last newest
      (by rw [← parts, List.getLast?_append_of_ne_nil _ (List.cons_ne_nil _ _)] at last; exact last)
    have same : (SequenceRange.tail ⟨first.sequence, newest.sequence⟩ count).first = oldest.sequence := by
      apply UInt32.toNat_inj.mp
      rw [SequenceRange.toNat_first_tail]
      dsimp only
      omega
    rw [same]
    rw [← parts]
    exact (parts.symm ▸ consecutive).ascending.since_own

end Consecutive

end

end ClosedLedger

end LedgerService

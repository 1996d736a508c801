import LedgerService.Fees.Window
import LedgerService.Proofs.Fees.Ring
import Mathlib.Data.List.Chain

/-!
# What a fee window retains

A window against the buckets that it has accepted: it retains the newest of them, as many as it has room for, and
its statistics are those of the retained ones. The next bucket in sequence is accepted and any other refused,
whatever the number of buckets retained.
-/

namespace LedgerService

theorem getLast?_rtake {α : Type} (buckets : List α) {retention : Nat} (positive : 0 < retention) :
    (buckets.rtake retention).getLast? = buckets.getLast? := by
  unfold List.rtake
  rw [List.getLast?_drop]
  cases buckets with
  | nil => rfl
  | cons oldest others =>
      rw [if_neg]
      rw [List.length_cons]
      omega

/-- Only the newest buckets matter for the newest buckets of a longer list. -/
theorem rtake_append_singleton {α : Type} (buckets : List α) (bucket : α) (retention : Nat) :
    (buckets.rtake retention ++ [bucket]).rtake retention = (buckets ++ [bucket]).rtake retention := by
  cases retention with
  | zero => simp
  | succ fewer =>
      rw [List.rtake_concat_succ, List.rtake_concat_succ]
      have shorter : (buckets.rtake (fewer + 1)).length - fewer + (buckets.length - (fewer + 1)) =
          buckets.length - fewer := by
        simp only [List.rtake, List.length_drop]
        omega
      simp only [List.rtake, List.drop_drop] at shorter ⊢
      rw [Nat.add_comm, shorter]

namespace FeeWindow

/-- The window retains the newest of the given buckets, the oldest first, and its statistics are theirs. -/
structure Retains (window : FeeWindow) (retention : Nat) (buckets : List (Bucket (List UInt64))) : Prop where
  capacity : window.ring.capacity = retention
  toList : window.ring.toList = buckets.rtake retention
  statistics : window.statistics = FeeStatistics.ofFees (fees window.ring) (UInt32.ofNat window.ring.size)

theorem retains_empty {retention : UInt32} (positive : 0 < retention) :
    ∃ window, FeeWindow.empty retention = .ok window ∧ window.Retains retention.toNat [] := by
  rcases BucketRing.empty_of_positive (α := List UInt64) positive with ⟨ring, created, capacity, nothing⟩
  have size : ring.size = 0 := by
    rw [← BucketRing.length_toList, nothing]
    rfl
  refine ⟨⟨ring, FeeStatistics.blank 0⟩, ?_, capacity, ?_, ?_⟩
  · rw [FeeWindow.empty, created]
    rfl
  · rw [nothing, List.rtake_nil]
  · rw [fees, nothing, size]
    simp [FeeStatistics.ofFees]

namespace Retains

variable {window : FeeWindow} {retention : Nat} {buckets : List (Bucket (List UInt64))}
  {bucket : Bucket (List UInt64)}

theorem positive (retains : window.Retains retention buckets) : 0 < retention := by
  rw [← retains.capacity]
  exact Nat.lt_of_le_of_lt (Nat.zero_le _) window.ring.start_lt

theorem getLast?_toList (retains : window.Retains retention buckets) :
    window.ring.toList.getLast? = buckets.getLast? := by
  rw [retains.toList, getLast?_rtake buckets retains.positive]

theorem consecutive (retains : window.Retains retention buckets) (chain : buckets.IsChain Bucket.Precedes) :
    window.ring.toList.IsChain Bucket.Precedes := by
  rw [retains.toList]
  exact chain.drop _

theorem offer (retains : window.Retains retention buckets) (chain : buckets.IsChain Bucket.Precedes)
    (next : ∀ newest ∈ buckets.getLast?, newest.Precedes bucket) :
    ∃ larger, window.offer bucket = (larger, .ok ()) ∧ larger.Retains retention (buckets ++ [bucket]) := by
  have accepted : window.ring.offer bucket = ((window.ring.insert bucket).1, .ok (window.ring.insert bucket).2) := by
    apply BucketRing.offer_of_precedes (retains.consecutive chain)
    rw [retains.getLast?_toList]
    exact next
  refine ⟨⟨(window.ring.insert bucket).1, FeeStatistics.ofFees (fees (window.ring.insert bucket).1)
    (UInt32.ofNat (window.ring.insert bucket).1.size)⟩, ?_, ?_, ?_, rfl⟩
  · rw [FeeWindow.offer, accepted]
  · rw [BucketRing.insert_capacity, retains.capacity]
  · rw [BucketRing.toList_insert, retains.toList, retains.capacity, rtake_append_singleton]

theorem offer_of_gap (retains : window.Retains retention buckets) (chain : buckets.IsChain Bucket.Precedes)
    {newest : Bucket (List UInt64)} (last : buckets.getLast? = some newest) (gap : ¬newest.Precedes bucket) :
    window.offer bucket = (window, .error (.gap (newest.sequence + 1) bucket.sequence)) := by
  rw [← retains.getLast?_toList] at last
  rw [FeeWindow.offer, BucketRing.offer_of_gap (retains.consecutive chain) last gap]

end Retains

end FeeWindow

end LedgerService

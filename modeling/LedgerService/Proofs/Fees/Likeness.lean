import LedgerService.Proofs.Fees.Book

/-!
# Books that cannot be told apart

Two fee books with the same buckets and the same room are alike, wherever the oldest bucket stands in their rings. They
give the same answers, accept the same ledgers, and are alike afterwards (`FeeBook.Alike.append`). A book that has
accepted the last of some ledgers, as many as its larger window retains, is like one that has accepted all of them
(`FeeBook.Covers.alike`).
-/

namespace LedgerService

theorem BucketRing.expected?_toList {α : Type} (ring : BucketRing α) :
    ring.expected? = ring.toList.head?.map fun oldest => oldest.sequence + UInt32.ofNat ring.toList.length := by
  rw [expected?, get?_eq, length_toList, List.head?_eq_getElem?]

namespace FeeWindow

/-- The windows hold the same buckets and have the same room. -/
structure Alike (window other : FeeWindow) : Prop where
  capacity : window.ring.capacity = other.ring.capacity
  toList : window.ring.toList = other.ring.toList
  statistics : window.statistics = other.statistics

namespace Alike

variable {window other : FeeWindow}

theorem latest? (alike : window.Alike other) : window.latest? = other.latest? := by
  rw [FeeWindow.latest?, FeeWindow.latest?, BucketRing.newest?_eq, BucketRing.newest?_eq, alike.toList]

theorem offer (alike : window.Alike other) (bucket : Bucket (List UInt64)) :
    (window.offer bucket).2 = (other.offer bucket).2 ∧ (window.offer bucket).1.Alike (other.offer bucket).1 := by
  have expected : window.ring.expected? = other.ring.expected? := by
    rw [BucketRing.expected?_toList, BucketRing.expected?_toList, alike.toList]
  have capacity : (window.ring.insert bucket).1.capacity = (other.ring.insert bucket).1.capacity := by
    rw [BucketRing.insert_capacity, BucketRing.insert_capacity, alike.capacity]
  have toList : (window.ring.insert bucket).1.toList = (other.ring.insert bucket).1.toList := by
    rw [BucketRing.toList_insert, BucketRing.toList_insert, alike.toList, alike.capacity]
  have inserted : Alike
      ⟨(window.ring.insert bucket).1, FeeStatistics.ofFees (fees (window.ring.insert bucket).1)
        (UInt32.ofNat (window.ring.insert bucket).1.size)⟩
      ⟨(other.ring.insert bucket).1, FeeStatistics.ofFees (fees (other.ring.insert bucket).1)
        (UInt32.ofNat (other.ring.insert bucket).1.size)⟩ := by
    refine ⟨capacity, toList, ?_⟩
    dsimp only
    rw [fees, fees, ← BucketRing.length_toList, ← BucketRing.length_toList, toList]
  have objection : window.ring.objection? bucket = other.ring.objection? bucket := by
    rw [BucketRing.objection?, BucketRing.objection?, expected]
  rw [FeeWindow.offer, FeeWindow.offer, BucketRing.offer, BucketRing.offer, objection]
  cases other.ring.objection? bucket with
  | none => exact ⟨rfl, inserted⟩
  | some failure => exact ⟨rfl, alike⟩

end Alike

end FeeWindow

namespace FeeBook

/-- The windows of the books are alike. -/
structure Alike (book other : FeeBook) : Prop where
  passphrase : book.passphrase = other.passphrase
  classic : book.classic.Alike other.classic
  contract : book.contract.Alike other.contract

theorem Alike.append {book other : FeeBook} (alike : book.Alike other) (ledger : ClosedLedger) :
    (book.append ledger).2 = (other.append ledger).2 ∧ (book.append ledger).1.Alike (other.append ledger).1 := by
  rw [FeeBook.append, FeeBook.append, alike.passphrase]
  cases ledger.fees other.passphrase with
  | error failure => exact ⟨rfl, alike⟩
  | ok fees =>
      dsimp only
      have classic := alike.classic.offer ⟨ledger.sequence, ledger.closeTime, fees.classic⟩
      have contract := alike.contract.offer ⟨ledger.sequence, ledger.closeTime, fees.contract⟩
      generalize book.classic.offer _ = outcome at classic ⊢
      generalize other.classic.offer _ = rival at classic ⊢
      rcases outcome with ⟨window, result⟩
      rcases rival with ⟨rivalWindow, rivalResult⟩
      rcases classic with ⟨rfl, classic⟩
      cases result with
      | error failure => exact ⟨rfl, rfl, classic, alike.contract⟩
      | ok _ => exact ⟨contract.1, rfl, classic, contract.2⟩

end FeeBook

/-- Fewer of the last are the last of more. -/
theorem rtake_rtake {α : Type} (items : List α) {fewer more : Nat} (ordered : fewer ≤ more) :
    (items.rtake more).rtake fewer = items.rtake fewer := by
  simp only [List.rtake, List.length_drop, List.drop_drop]
  congr 1
  omega

theorem map_rtake {α β : Type} (f : α → β) (items : List α) (count : Nat) :
    (items.rtake count).map f = (items.map f).rtake count := by
  rw [List.rtake, List.rtake, List.map_drop, List.length_map]

theorem FeeWindow.Retains.alike {window other : FeeWindow} {retention count : Nat}
    {buckets : List (Bucket (List UInt64))}
    (retains : window.Retains retention (buckets.rtake count)) (retainsAll : other.Retains retention buckets)
    (enough : retention ≤ count) : window.Alike other := by
  have toList : window.ring.toList = other.ring.toList := by
    rw [retains.toList, retainsAll.toList, rtake_rtake buckets enough]
  refine ⟨retains.capacity.trans retainsAll.capacity.symm, toList, ?_⟩
  rw [retains.statistics, retainsAll.statistics, fees, fees, ← BucketRing.length_toList, ← BucketRing.length_toList,
    toList]

theorem FeeBook.Covers.alike {book other : FeeBook} {classic contract count : Nat} {passphrase : String}
    {ledgers : List ClosedLedger} (covers : book.Covers classic contract passphrase (ledgers.rtake count))
    (coversAll : other.Covers classic contract passphrase ledgers) (classicEnough : classic ≤ count)
    (contractEnough : contract ≤ count) : book.Alike other := by
  have classicRetains := covers.classic
  have contractRetains := covers.contract
  rw [map_rtake] at classicRetains contractRetains
  exact ⟨covers.passphrase_eq.trans coversAll.passphrase_eq.symm, classicRetains.alike coversAll.classic classicEnough,
    contractRetains.alike coversAll.contract contractEnough⟩

end LedgerService

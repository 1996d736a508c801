import LedgerService.Fees.Book
import LedgerService.Proofs.Fees.Window

/-!
# What a fee book covers

A book against the ledgers that it has accepted. Both of its windows have seen the same ledgers, so they expect the
same sequence, however many buckets each of them retains: once the classic window has accepted a ledger, the
contract window accepts it too. A book that refuses a ledger is therefore the book that it was
(`FeeBook.Covers.append_of_not_fits`).
-/

namespace LedgerService

/-- The fees of a ledger, none for a ledger whose transactions cannot be read. -/
def ClosedLedger.charges (passphrase : String) (ledger : ClosedLedger) : LedgerFees :=
  (ledger.fees passphrase).toOption.getD ⟨[], []⟩

/-- The bucket of one of the two series of fees of a ledger. -/
def ClosedLedger.bucket (series : LedgerFees → List UInt64) (passphrase : String) (ledger : ClosedLedger) :
    Bucket (List UInt64) :=
  ⟨ledger.sequence, ledger.closeTime, series (ledger.charges passphrase)⟩

/-- The later ledger is the next one. -/
def ClosedLedger.Precedes (earlier later : ClosedLedger) : Prop := later.sequence = earlier.sequence + 1

/-- The fees of the ledger can be read, and it is the one after the newest of those given. -/
structure ClosedLedger.Fits (ledger : ClosedLedger) (passphrase : String) (ledgers : List ClosedLedger) : Prop where
  readable : ledger.fees passphrase = .ok (ledger.charges passphrase)
  next : ∀ newest ∈ ledgers.getLast?, newest.Precedes ledger

theorem ClosedLedger.charges_eq {ledger : ClosedLedger} {passphrase : String} {fees : LedgerFees}
    (readable : ledger.fees passphrase = .ok fees) : ledger.charges passphrase = fees := by
  unfold charges
  rw [readable]
  rfl

theorem isChain_map_bucket (series : LedgerFees → List UInt64) (passphrase : String) (ledgers : List ClosedLedger) :
    (ledgers.map (ClosedLedger.bucket series passphrase)).IsChain Bucket.Precedes ↔
      ledgers.IsChain ClosedLedger.Precedes :=
  List.isChain_map _

/-- The window retains the last of the given ledgers, at most `retention` of them, with one series of their fees. -/
def FeeWindow.RetainsLast (window : FeeWindow) (retention : Nat) (series : LedgerFees → List UInt64)
    (passphrase : String) (ledgers : List ClosedLedger) : Prop :=
  let last := ledgers.rtake (min retention ledgers.length)
  window.ring.toList = last.map (ClosedLedger.bucket series passphrase) ∧
    window.statistics = FeeStatistics.ofFees (last.flatMap fun ledger => series (ledger.charges passphrase))
      (UInt32.ofNat (min retention ledgers.length))

theorem FeeWindow.Retains.retainsLast {window : FeeWindow} {retention : Nat} {series : LedgerFees → List UInt64}
    {passphrase : String} {ledgers : List ClosedLedger}
    (retains : window.Retains retention (ledgers.map (ClosedLedger.bucket series passphrase))) :
    window.RetainsLast retention series passphrase ledgers := by
  have last : ledgers.rtake retention = ledgers.rtake (min retention ledgers.length) := by
    unfold List.rtake
    congr 1
    omega
  have kept : window.ring.toList =
      (ledgers.rtake (min retention ledgers.length)).map (ClosedLedger.bucket series passphrase) := by
    rw [retains.toList, ← last, List.rtake, List.rtake, List.length_map, List.map_drop]
  have size : window.ring.size = min retention ledgers.length := by
    rw [← BucketRing.length_toList, kept, List.length_map, List.rtake, List.length_drop]
    omega
  refine ⟨kept, ?_⟩
  rw [retains.statistics, size, FeeWindow.fees, kept, List.flatMap_map]
  rfl

namespace FeeBook

/-- The book has accepted the given ledgers, in this order. -/
structure Covers (book : FeeBook) (classic contract : Nat) (passphrase : String) (ledgers : List ClosedLedger) :
    Prop where
  passphrase_eq : book.passphrase = passphrase
  classic : book.classic.Retains classic (ledgers.map (ClosedLedger.bucket LedgerFees.classic passphrase))
  contract : book.contract.Retains contract (ledgers.map (ClosedLedger.bucket LedgerFees.contract passphrase))
  consecutive : ledgers.IsChain ClosedLedger.Precedes
  readable : ∀ ledger ∈ ledgers, ledger.fees passphrase = .ok (ledger.charges passphrase)

theorem covers_empty {classic contract : UInt32} (classicPositive : 0 < classic) (contractPositive : 0 < contract)
    (passphrase : String) :
    ∃ book, FeeBook.empty classic contract passphrase = .ok book ∧
      book.Covers classic.toNat contract.toNat passphrase [] := by
  rcases FeeWindow.retains_empty classicPositive with ⟨classicWindow, classicCreated, classicRetains⟩
  rcases FeeWindow.retains_empty contractPositive with ⟨contractWindow, contractCreated, contractRetains⟩
  refine ⟨⟨classicWindow, contractWindow, passphrase⟩, ?_, rfl, classicRetains, contractRetains, .nil, ?_⟩
  · rw [FeeBook.empty, classicCreated, contractCreated]
    rfl
  · intro ledger member
    cases member

namespace Covers

variable {book : FeeBook} {classic contract : Nat} {passphrase : String} {ledgers : List ClosedLedger}
  {ledger : ClosedLedger}

/-- What the two windows have in common: either accepts a ledger that fits. -/
theorem offer_window {window : FeeWindow} {retention : Nat} {series : LedgerFees → List UInt64}
    (retains : window.Retains retention (ledgers.map (ClosedLedger.bucket series passphrase)))
    (consecutive : ledgers.IsChain ClosedLedger.Precedes) (fits : ledger.Fits passphrase ledgers) :
    ∃ larger, window.offer (ledger.bucket series passphrase) = (larger, .ok ()) ∧
      larger.Retains retention ((ledgers ++ [ledger]).map (ClosedLedger.bucket series passphrase)) := by
  rw [List.map_append]
  apply retains.offer ((isChain_map_bucket series passphrase ledgers).mpr consecutive)
  intro newest member
  rw [List.getLast?_map] at member
  rcases Option.map_eq_some_iff.mp member with ⟨last, found, rfl⟩
  exact fits.next last found

theorem append (covers : book.Covers classic contract passphrase ledgers) (fits : ledger.Fits passphrase ledgers) :
    ∃ larger, book.append ledger = (larger, .ok ()) ∧
      larger.Covers classic contract passphrase (ledgers ++ [ledger]) := by
  rcases offer_window covers.classic covers.consecutive fits with ⟨classicLarger, classicAccepts, classicRetains⟩
  rcases offer_window covers.contract covers.consecutive fits with
    ⟨contractLarger, contractAccepts, contractRetains⟩
  refine ⟨⟨classicLarger, contractLarger, passphrase⟩, ?_, rfl, classicRetains, contractRetains, ?_, ?_⟩
  · unfold ClosedLedger.bucket at classicAccepts contractAccepts
    unfold FeeBook.append
    rw [covers.passphrase_eq, fits.readable]
    simp only [classicAccepts, contractAccepts]
  · apply covers.consecutive.append (List.isChain_singleton ledger)
    intro newest member first only
    cases only
    exact fits.next newest member
  · intro one member
    rcases List.mem_append.mp member with earlier | last
    · exact covers.readable one earlier
    · rw [List.mem_singleton.mp last]
      exact fits.readable

/-- The classic window is asked first, and refuses whatever the contract window would refuse. -/
theorem append_of_gap (covers : book.Covers classic contract passphrase ledgers)
    (readable : ledger.fees passphrase = .ok (ledger.charges passphrase)) {newest : ClosedLedger}
    (last : ledgers.getLast? = some newest) (apart : ¬newest.Precedes ledger) :
    book.append ledger = (book, .error (.gap (newest.sequence + 1) ledger.sequence)) := by
  cases covers.passphrase_eq
  have newestBucket : (ledgers.map (ClosedLedger.bucket LedgerFees.classic book.passphrase)).getLast? =
      some (newest.bucket LedgerFees.classic book.passphrase) := by
    rw [List.getLast?_map, last]
    rfl
  have gap : ¬(newest.bucket LedgerFees.classic book.passphrase).Precedes
      ⟨ledger.sequence, ledger.closeTime, (ledger.charges book.passphrase).classic⟩ := apart
  have refused := covers.classic.offer_of_gap
    ((isChain_map_bucket LedgerFees.classic book.passphrase ledgers).mpr covers.consecutive) newestBucket gap
  unfold FeeBook.append
  rw [readable]
  simp only [refused]
  rfl

theorem append_of_not_fits (covers : book.Covers classic contract passphrase ledgers)
    (misfit : ¬ledger.Fits passphrase ledgers) :
    ∃ failure, book.append ledger = (book, .error failure) := by
  cases readable : ledger.fees passphrase with
  | error failure =>
      unfold FeeBook.append
      rw [covers.passphrase_eq, readable]
      exact ⟨failure, rfl⟩
  | ok fees =>
      rw [← ClosedLedger.charges_eq readable] at readable
      cases last : ledgers.getLast? with
      | none =>
          apply absurd _ misfit
          exact ⟨readable, by simp [last]⟩
      | some newest =>
          refine ⟨_, covers.append_of_gap readable last ?_⟩
          intro precedes
          apply misfit
          refine ⟨readable, ?_⟩
          intro other member
          rw [last] at member
          cases member
          exact precedes

end Covers

end FeeBook

end LedgerService

import LedgerService.Ingestion
import LedgerService.Proofs.Fees.Book
import LedgerService.Store.Rehearsal
import LedgerService.Store.Shelf

/-!
# Entering ledgers into the fee book

The two windows of a book move together. The classic window is asked first and keeps its bucket whatever the contract
window says, so all depends on the invariant that the contract window never says anything else: both have accepted the
same ledgers (`FeeBook.Covers`), which every call keeps (`FeeBook.Covers.enter`). A call that fails therefore leaves the
book as it is, and has rolled the storage transaction back once (`FeeBook.both_or_neither`).
-/

namespace LedgerService

variable {σ : Type}

/-- The reason why a ledger cannot follow the latest one on the network with the given passphrase. -/
def ClosedLedger.objection? (ledger : ClosedLedger) (passphrase : String) (latest? : Option UInt32) :
    Option FeeFailure :=
  if passphrase = "" then some (.malformed .missingPassphrase)
  else if ledger.envelopes.length ≠ ledger.receipts.length then
    some (.malformed (.countMismatch ledger.sequence ledger.envelopes.length ledger.receipts.length))
  else
    match latest? with
    | none => none
    | some latest => if ledger.sequence = latest + 1 then none else some (.gap (latest + 1) ledger.sequence)

namespace ClosedLedger

variable {ledger : ClosedLedger} {passphrase : String} {latest? : Option UInt32}

theorem exists_objection_iff :
    (∃ cause, ledger.objection? passphrase latest? = some cause) ↔
      passphrase = "" ∨ ledger.envelopes.length ≠ ledger.receipts.length ∨
        ∃ latest ∈ latest?, ledger.sequence ≠ latest + 1 := by
  unfold objection?
  split
  case isTrue blank => simp [blank]
  case isFalse known =>
    split
    case isTrue mismatch => simp [mismatch]
    case isFalse paired =>
      cases latest? with
      | none => simp [known, paired]
      | some latest =>
          by_cases next : ledger.sequence = latest + 1
          · simp [known, paired, next]
          · simp [known, paired, next]

/-- The fees of a ledger are read, or there is an objection to the ledger whatever the latest one is. -/
theorem fees_cases (ledger : ClosedLedger) (passphrase : String) :
    (passphrase ≠ "" ∧ ledger.envelopes.length = ledger.receipts.length ∧
      ledger.fees passphrase = .ok (ledger.charges passphrase)) ∨
    ∃ cause, ledger.fees passphrase = .error cause ∧
      ∀ latest?, ledger.objection? passphrase latest? = some cause := by
  by_cases blank : passphrase = ""
  · right
    refine ⟨.malformed .missingPassphrase, ?_, ?_⟩
    · simp [fees, transactions, blank]
    · intro latest?
      exact if_pos blank
  by_cases paired : ledger.envelopes.length = ledger.receipts.length
  · left
    refine ⟨blank, paired, ?_⟩
    have readable : ∃ fees, ledger.fees passphrase = .ok fees := by
      simp [fees, transactions, blank, paired]
    rcases readable with ⟨fees, readable⟩
    rw [charges_eq readable]
    exact readable
  · right
    refine ⟨.malformed (.countMismatch ledger.sequence ledger.envelopes.length ledger.receipts.length), ?_, ?_⟩
    · simp [fees, transactions, blank, paired]
    · intro latest?
      simp [objection?, blank, paired]

end ClosedLedger

theorem FeeFailure.afterRollback_cases (cause : FeeFailure) (outcome : Except Failure Unit) :
    (outcome = .ok () ∧ cause.afterRollback outcome = cause) ∨
    ∃ trouble, outcome = .error trouble ∧ cause.afterRollback outcome = .rollbackFailed cause trouble.message := by
  rcases outcome with trouble | _
  · exact .inr ⟨trouble, rfl, rfl⟩
  · exact .inl ⟨rfl, rfl⟩

/-- A rollback is counted, whether or not it succeeds. -/
theorem Rehearsal.counts_rollback [LedgerSink σ] (store : Rehearsal σ) :
    (LedgerSink.rollback store).1.counts = { store.counts with rollbacks := store.counts.rollbacks + 1 } := by
  rcases store with ⟨inner, ⟨opening, inserting, committing, fault⟩, counts⟩
  cases fault with
  | none => rfl
  | some text => rfl

theorem FeeWindow.Retains.newest?_eq {window : FeeWindow} {retention : Nat} {series : LedgerFees → List UInt64}
    {passphrase : String} {ledgers : List ClosedLedger}
    (retains : window.Retains retention (ledgers.map (ClosedLedger.bucket series passphrase))) :
    window.ring.newest? = ledgers.getLast?.map (ClosedLedger.bucket series passphrase) := by
  rw [BucketRing.newest?_eq, retains.getLast?_toList, List.getLast?_map]

theorem FeeWindow.Retains.latest?_eq {window : FeeWindow} {retention : Nat} {series : LedgerFees → List UInt64}
    {passphrase : String} {ledgers : List ClosedLedger}
    (retains : window.Retains retention (ledgers.map (ClosedLedger.bucket series passphrase))) :
    window.latest? = ledgers.getLast?.map ClosedLedger.sequence := by
  rw [FeeWindow.latest?, retains.newest?_eq, Option.map_map]
  rfl

namespace FeeBook

theorem positive_of_empty {classic contract : UInt32} {passphrase : String} {fresh : FeeBook}
    (created : FeeBook.empty classic contract passphrase = .ok fresh) : 0 < classic ∧ 0 < contract := by
  have none_of_zero : ∀ {retention : UInt32}, ¬0 < retention → FeeWindow.empty retention = .error .emptyRetention := by
    intro retention zero
    have size : ¬0 < retention.toNat := zero
    simp [FeeWindow.empty, BucketRing.empty, size, bind, Except.bind]
  by_cases contractPositive : 0 < contract
  · by_cases classicPositive : 0 < classic
    · exact ⟨classicPositive, contractPositive⟩
    · rcases FeeWindow.retains_empty contractPositive with ⟨window, made, -⟩
      rw [FeeBook.empty, made, none_of_zero classicPositive] at created
      cases created
  · rw [FeeBook.empty, none_of_zero contractPositive] at created
    cases created

/-- A book that could be made has accepted nothing yet. -/
theorem covers_of_empty {classic contract : UInt32} {passphrase : String} {fresh : FeeBook}
    (created : FeeBook.empty classic contract passphrase = .ok fresh) :
    fresh.Covers classic.toNat contract.toNat passphrase [] := by
  rcases positive_of_empty created with ⟨classicPositive, contractPositive⟩
  rcases covers_empty classicPositive contractPositive passphrase with ⟨book, same, covers⟩
  rw [created] at same
  cases same
  exact covers

/-- The book after ledgers were entered one after the other, each on behalf of a transaction of its own. -/
def afterCalls [LedgerSink σ] (fresh : FeeBook) (calls : List (ClosedLedger × σ)) : FeeBook :=
  calls.foldl (fun book call => (FeeBook.enter call.1 call.2 book).2.1) fresh

namespace Covers

variable {book : FeeBook} {classic contract : Nat} {passphrase : String} {ledgers : List ClosedLedger}

theorem classic_latest? (covers : book.Covers classic contract passphrase ledgers) :
    book.classic.latest? = ledgers.getLast?.map ClosedLedger.sequence :=
  covers.classic.latest?_eq

theorem latest?_eq (covers : book.Covers classic contract passphrase ledgers) :
    book.classic.latest? = book.contract.latest? := by
  rw [covers.classic.latest?_eq, covers.contract.latest?_eq]

/-- The book takes the ledger into both windows, or stays as it is and names the objection. -/
theorem append_cases (covers : book.Covers classic contract passphrase ledgers) (ledger : ClosedLedger) :
    (ledger.objection? passphrase book.classic.latest? = none ∧
      ∃ larger, book.append ledger = (larger, .ok ()) ∧
        larger.Covers classic contract passphrase (ledgers ++ [ledger])) ∨
    ∃ cause, ledger.objection? passphrase book.classic.latest? = some cause ∧
      book.append ledger = (book, .error cause) := by
  rw [covers.classic_latest?]
  rcases ledger.fees_cases passphrase with ⟨known, paired, readable⟩ | ⟨cause, unreadable, objection⟩
  · cases last : ledgers.getLast? with
    | none =>
        left
        refine ⟨by simp [ClosedLedger.objection?, known, paired], covers.append ⟨readable, ?_⟩⟩
        simp [last]
    | some newest =>
        by_cases next : newest.Precedes ledger
        · left
          refine ⟨?_, covers.append ⟨readable, ?_⟩⟩
          · have same : ledger.sequence = newest.sequence + 1 := next
            simp [ClosedLedger.objection?, known, paired, same]
          · intro other member
            rw [last] at member
            cases member
            exact next
        · right
          refine ⟨.gap (newest.sequence + 1) ledger.sequence, ?_, covers.append_of_gap readable last next⟩
          have apart : ledger.sequence ≠ newest.sequence + 1 := next
          simp [ClosedLedger.objection?, known, paired, apart]
  · right
    refine ⟨cause, objection _, ?_⟩
    unfold FeeBook.append
    rw [covers.passphrase_eq, unreadable]

theorem of_append_ok (covers : book.Covers classic contract passphrase ledgers) {ledger : ClosedLedger}
    {larger : FeeBook} (accepted : book.append ledger = (larger, .ok ())) :
    larger.Covers classic contract passphrase (ledgers ++ [ledger]) := by
  rcases covers.append_cases ledger with ⟨-, other, same, covered⟩ | ⟨cause, -, refused⟩
  · rw [accepted] at same
    cases same
    exact covered
  · rw [accepted] at refused
    cases refused

theorem of_append_error (covers : book.Covers classic contract passphrase ledgers) {ledger : ClosedLedger}
    {after : FeeBook} {failure : FeeFailure} (failed : book.append ledger = (after, .error failure)) : after = book := by
  rcases covers.append_cases ledger with ⟨-, larger, accepted, -⟩ | ⟨cause, -, refused⟩
  · rw [failed] at accepted
    cases accepted
  · rw [failed] at refused
    cases refused
    rfl

/-- One call: both windows take the ledger and the store is left alone, or neither does and the store rolls back. -/
theorem enter_cases [LedgerSink σ] (covers : book.Covers classic contract passphrase ledgers)
    (ledger : ClosedLedger) (store : σ) :
    (ledger.objection? passphrase book.classic.latest? = none ∧
      ∃ larger, FeeBook.enter ledger store book = (store, larger, .ok ()) ∧
        larger.Covers classic contract passphrase (ledgers ++ [ledger])) ∨
    ∃ cause, ledger.objection? passphrase book.classic.latest? = some cause ∧
      FeeBook.enter ledger store book =
        ((LedgerSink.rollback store).1, book, .error (cause.afterRollback (LedgerSink.rollback store).2)) := by
  rcases covers.append_cases ledger with ⟨nothing, larger, accepted, covered⟩ | ⟨cause, objection, refused⟩
  · left
    refine ⟨nothing, larger, ?_, covered⟩
    rw [FeeBook.enter, accepted]
  · right
    refine ⟨cause, objection, ?_⟩
    rw [FeeBook.enter, refused]

theorem enter [LedgerSink σ] (covers : book.Covers classic contract passphrase ledgers) (ledger : ClosedLedger)
    (store : σ) : ∃ accepted, (FeeBook.enter ledger store book).2.1.Covers classic contract passphrase accepted := by
  rcases covers.enter_cases ledger store with ⟨-, larger, entered, covered⟩ | ⟨cause, -, refused⟩
  · rw [entered]
    exact ⟨_, covered⟩
  · rw [refused]
    exact ⟨_, covers⟩

theorem afterCalls [LedgerSink σ] (covers : book.Covers classic contract passphrase ledgers)
    (calls : List (ClosedLedger × σ)) :
    ∃ accepted, (book.afterCalls calls).Covers classic contract passphrase accepted := by
  induction calls generalizing book ledgers with
  | nil => exact ⟨ledgers, covers⟩
  | cons call others ih =>
      rcases covers.enter call.1 call.2 with ⟨accepted, covered⟩
      exact ih covered

end Covers

/--
A fresh book, after any calls, and one call more. The windows have the same latest ledger before and after it. It fails
just if the passphrase is blank, the ledger has other numbers of transactions and of outcomes, or it does not follow the
latest one; then the book is what it was, and the transaction was rolled back once. The failure is the objection to the
ledger, together with the reason why the rollback failed if it did. Otherwise nothing is asked of the store, and the
ledger is the newest one in both windows.
-/
theorem both_or_neither [LedgerSink σ] {classic contract : UInt32} {passphrase : String} {fresh : FeeBook}
    (created : FeeBook.empty classic contract passphrase = .ok fresh) (calls : List (ClosedLedger × Rehearsal σ))
    (ledger : ClosedLedger) (store : Rehearsal σ) :
    let book := fresh.afterCalls calls
    let latest? := book.classic.latest?
    let call := FeeBook.enter ledger store book
    let rollback := LedgerSink.rollback store
    latest? = book.contract.latest? ∧ call.2.1.classic.latest? = call.2.1.contract.latest? ∧
    ((∃ failure, call.2.2 = .error failure) ↔
      passphrase = "" ∨ ledger.envelopes.length ≠ ledger.receipts.length ∨
        ∃ latest ∈ latest?, ledger.sequence ≠ latest + 1) ∧
    (∀ failure, call.2.2 = .error failure →
      call.2.1 = book ∧ call.1 = rollback.1 ∧
      call.1.counts = { store.counts with rollbacks := store.counts.rollbacks + 1 } ∧
      ∃ cause, ledger.objection? passphrase latest? = some cause ∧ book.append ledger = (book, .error cause) ∧
        ((rollback.2 = .ok () ∧ failure = cause) ∨
          ∃ trouble, rollback.2 = .error trouble ∧ failure = .rollbackFailed cause trouble.message)) ∧
    (call.2.2 = .ok () →
      call.1 = store ∧ call.2.1.classic.ring.newest? = some (ledger.bucket LedgerFees.classic passphrase) ∧
      call.2.1.contract.ring.newest? = some (ledger.bucket LedgerFees.contract passphrase)) := by
  intro book latest? call rollback
  rcases (covers_of_empty created).afterCalls calls with ⟨ledgers, covers⟩
  have fails : (∃ cause, ledger.objection? passphrase latest? = some cause) ↔ _ := ClosedLedger.exists_objection_iff
  refine ⟨covers.latest?_eq, ?_⟩
  rcases covers.enter_cases ledger store with ⟨nothing, larger, entered, covered⟩ | ⟨cause, objection, refused⟩
  · have entered : call = (store, larger, .ok ()) := entered
    rw [entered]
    refine ⟨covered.latest?_eq, ?_, ?_, ?_⟩
    · rw [← fails, nothing]
      simp
    · intro failure failed
      cases failed
    · intro _
      refine ⟨rfl, ?_, ?_⟩
      · simp [covered.classic.newest?_eq]
      · simp [covered.contract.newest?_eq]
  · have refused : call = (rollback.1, book, .error (cause.afterRollback rollback.2)) := refused
    rw [refused]
    refine ⟨covers.latest?_eq, ?_, ?_, ?_⟩
    · rw [← fails, objection]
      simp
    · intro failure failed
      cases failed
      refine ⟨rfl, rfl, store.counts_rollback, cause, objection, ?_, ?_⟩
      · rcases covers.append_cases ledger with ⟨nothing, -⟩ | ⟨other, same, unchanged⟩
        · rw [nothing] at objection
          cases objection
        · rw [same] at objection
          cases objection
          exact unchanged
      · rcases cause.afterRollback_cases rollback.2 with ⟨done, same⟩ | ⟨trouble, failed, joined⟩
        · exact .inl ⟨done, same⟩
        · exact .inr ⟨trouble, failed, joined⟩
    · intro done
      cases done

/-- Two ledgers without transactions, the later one the first sequence of all. -/
def twoCalls : List (ClosedLedger × Rehearsal Shelf) :=
  [(⟨4294967295, 10, "last", 20, [], []⟩, .start (.ofList [])),
    (⟨0, 15, "first", 20, [], []⟩, .start (.ofList []))]

/-- A transaction that cannot be rolled back. -/
def stuck : Rehearsal Shelf := { Rehearsal.start (.ofList []) with faults.rollback := some "connection lost" }

theorem neither_after_twoCalls :
    ∃ fresh, FeeBook.empty 1 2 "network" = .ok fresh ∧
      let book := fresh.afterCalls twoCalls
      let call := FeeBook.enter ⟨7, 20, "far", 20, [], []⟩ stuck book
      book.classic.latest? = some 0 ∧ book.contract.latest? = some 0 ∧ call.2.1 = book ∧
        call.1.counts = ⟨0, 0, 0, 1⟩ ∧
        call.2.2 = .error (.rollbackFailed (.gap 1 7) "Database error: connection lost") := by
  rcases covers_empty (by decide : (0 : UInt32) < 1) (by decide : (0 : UInt32) < 2) "network" with ⟨fresh, created, -⟩
  have outcome : ((FeeBook.empty 1 2 "network").toOption.map fun fresh =>
      let book := fresh.afterCalls twoCalls
      (book.classic.latest?, (FeeBook.enter ⟨7, 20, "far", 20, [], []⟩ stuck book).2.2)) =
        some (some 0, .error (.rollbackFailed (.gap 1 7) "Database error: connection lost")) := by decide +kernel
  rw [created] at outcome
  have reached := Option.some.inj outcome
  have latest := congrArg Prod.fst reached
  have failed := congrArg Prod.snd reached
  dsimp only at latest failed
  rcases both_or_neither created twoCalls ⟨7, 20, "far", 20, [], []⟩ stuck with ⟨same, -, -, fails, -⟩
  rcases fails _ failed with ⟨unchanged, -, counted, -⟩
  exact ⟨fresh, created, latest, same.symm.trans latest, unchanged, counted, failed⟩

end FeeBook

end LedgerService

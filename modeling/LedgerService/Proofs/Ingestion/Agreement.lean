import LedgerService.Ingestion
import LedgerService.Proofs.Fees.Book
import LedgerService.Proofs.Store.View

/-!
# Agreement of the store and the fee book

A run of ingestions on a store whose operations fail on demand. `ingest_cases` says what one ingestion can do:
either it fails before the commit, and then neither the store nor the book has changed, or it reaches the commit
with a book that has accepted the ledger in both windows and a transaction that holds nothing but this ledger. When
commits succeed, the store and the book therefore hold the same ledgers after every call
(`Intake.store_and_windows_agree`).
-/

namespace LedgerService

variable {σ α : Type}

/-- A store under observation, a fee book, and the ledgers whose ingestion succeeded. -/
structure Intake (σ : Type) where
  store : Rehearsal σ
  book : FeeBook
  accepted : List ClosedLedger

section

variable [LedgerSink σ]

/-- The store once a transaction has been opened and the ledger inserted. -/
def LedgerSink.loaded (ledger : ClosedLedger) (store : σ) : σ :=
  (LedgerSink.insert ledger (LedgerSink.openTransaction store).1).1

/-- The ingestion of a ledger gets as far as the commit, so that the book has accepted the ledger. -/
def reachesCommit (ledger : ClosedLedger) (store : σ) (book : FeeBook) : Bool :=
  match (IngestStage.run ledger 3 .opening store book).1 with
  | .committing => true
  | _ => false

/-- An ingestion fails without a trace, or ends with the commit of a transaction that holds just the ledger. -/
theorem ingest_cases (view : StoreView σ α) {book : FeeBook} {classic contract : Nat} {passphrase : String}
    {accepted : List ClosedLedger} (covers : book.Covers classic contract passphrase accepted)
    (ledger : ClosedLedger) (store : σ) :
    (∃ after failure, ingest ledger store book = (after, book, .error failure) ∧
      reachesCommit ledger store book = false ∧ view.committed after = view.committed store) ∨
    ∃ larger, ingest ledger store book =
        ((LedgerSink.commit (LedgerSink.loaded ledger store)).1, larger,
          (LedgerSink.commit (LedgerSink.loaded ledger store)).2) ∧
      reachesCommit ledger store book = true ∧ larger.Covers classic contract passphrase (accepted ++ [ledger]) ∧
      view.pending (LedgerSink.loaded ledger store) = some [view.entry ledger] ∧
      view.committed (LedgerSink.loaded ledger store) = view.committed store := by
  have kept : view.committed (LedgerSink.loaded ledger store) = view.committed store :=
    (view.committed_insert ledger _).trans (view.committed_open store)
  have reopened := view.committed_open store
  have begun := view.pending_open store
  have added := view.pending_insert ledger (LedgerSink.openTransaction store).1 []
  unfold LedgerSink.loaded at kept ⊢
  unfold ingest reachesCommit
  rcases opening : LedgerSink.openTransaction store with ⟨opened, _ | _⟩
  · left
    rw [opening] at reopened
    simp only [IngestStage.run, IngestStage.step, opening]
    exact ⟨_, _, rfl, trivial, reopened⟩
  · rw [opening] at kept begun added
    rcases inserting : LedgerSink.insert ledger opened with ⟨inserted, _ | _⟩
    · left
      rw [inserting] at kept
      simp only [IngestStage.run, IngestStage.step, opening, inserting]
      exact ⟨_, _, rfl, trivial, (view.committed_rollback inserted).trans kept⟩
    · rw [inserting] at kept added
      by_cases fits : ledger.Fits passphrase accepted
      · rcases covers.append fits with ⟨larger, entered, coversMore⟩
        right
        simp only [IngestStage.run, IngestStage.step, opening, inserting, entered]
        exact ⟨larger, rfl, trivial, coversMore, added (begun rfl) rfl, kept⟩
      · rcases covers.append_of_not_fits fits with ⟨failure, refused⟩
        left
        simp only [IngestStage.run, IngestStage.step, opening, inserting, refused]
        exact ⟨_, _, rfl, trivial, (view.committed_rollback inserted).trans kept⟩

namespace Intake

/-- The store once the given operations fail. -/
def facing (intake : Intake σ) (faults : Faults) : Rehearsal σ := { intake.store with faults }

/-- Offers a ledger for ingestion while some operations of the store fail. -/
def offer (intake : Intake σ) (call : Faults × ClosedLedger) : Intake σ × Except Failure Unit :=
  match ingest call.2 (intake.facing call.1) intake.book with
  | (store, book, .ok ()) => (⟨store, book, intake.accepted ++ [call.2]⟩, .ok ())
  | (store, book, .error failure) => ({ intake with store, book }, .error failure)

/-- Offers ledgers one after the other, whether they are accepted or not. -/
def run (intake : Intake σ) (calls : List (Faults × ClosedLedger)) : Intake σ :=
  calls.foldl (fun intake call => (intake.offer call).1) intake

/-- The store and the book hold the accepted ledgers. -/
structure Agrees (intake : Intake σ) (view : StoreView σ α) (classic contract : Nat) (passphrase : String) :
    Prop where
  stored : (view.committed intake.store.store).Perm (intake.accepted.map view.entry)
  covers : intake.book.Covers classic contract passphrase intake.accepted

namespace Agrees

variable {intake : Intake σ} {view : StoreView σ α} {classic contract : Nat} {passphrase : String}
  {call : Faults × ClosedLedger}

/-- A call fails without a trace, or the store and the book both gain its ledger. -/
theorem offer_cases (agrees : intake.Agrees view classic contract passphrase)
    (commits : ∀ store added, view.pending store = some added → (LedgerSink.commit store).2 = .ok ())
    (faultless : call.1.commit = none) :
    (∃ after failure, intake.offer call = ({ intake with store := after }, .error failure) ∧
      view.committed after.store = view.committed intake.store.store) ∨
    ∃ after larger, intake.offer call = (⟨after, larger, intake.accepted ++ [call.2]⟩, .ok ()) ∧
      Agrees ⟨after, larger, intake.accepted ++ [call.2]⟩ view classic contract passphrase := by
  rcases ingest_cases view.rehearsed agrees.covers call.2 (intake.facing call.1) with
    ⟨after, failure, ended, -, kept⟩ | ⟨larger, ended, -, covers, pending, kept⟩
  · left
    unfold offer
    rw [ended]
    exact ⟨after, failure, rfl, kept⟩
  · right
    have still : (LedgerSink.loaded call.2 (intake.facing call.1)).faults.commit = none := by
      unfold LedgerSink.loaded
      rw [Rehearsal.faults_insert, Rehearsal.faults_open]
      exact faultless
    have committed := (Rehearsal.commit_of_none still).trans (commits _ _ pending)
    refine ⟨(LedgerSink.commit (LedgerSink.loaded call.2 (intake.facing call.1))).1, larger, ?_, ?_, covers⟩
    · unfold offer
      rw [ended, committed]
    · have joined := view.rehearsed.committed_commit _ _ pending committed
      rw [kept] at joined
      have gained := joined.trans (agrees.stored.cons (view.entry call.2))
      rw [List.map_append]
      exact gained.trans (List.perm_append_singleton _ _).symm

theorem offer (agrees : intake.Agrees view classic contract passphrase)
    (commits : ∀ store added, view.pending store = some added → (LedgerSink.commit store).2 = .ok ())
    (faultless : call.1.commit = none) : (intake.offer call).1.Agrees view classic contract passphrase := by
  rcases agrees.offer_cases commits faultless with ⟨after, failure, ended, kept⟩ | ⟨after, larger, ended, more⟩
  · rw [ended]
    refine ⟨?_, agrees.covers⟩
    rw [kept]
    exact agrees.stored
  · rw [ended]
    exact more

theorem run (agrees : intake.Agrees view classic contract passphrase)
    (commits : ∀ store added, view.pending store = some added → (LedgerSink.commit store).2 = .ok ())
    (calls : List (Faults × ClosedLedger)) (faultless : ∀ call ∈ calls, call.1.commit = none) :
    (intake.run calls).Agrees view classic contract passphrase := by
  induction calls generalizing intake with
  | nil => exact agrees
  | cons call others ih =>
      apply ih (agrees.offer commits (faultless call (by simp)))
      intro other member
      exact faultless other (by simp [member])

end Agrees

/--
After every call the store holds the ledgers whose ingestion succeeded, these are consecutive, each window retains
the last of them, and a call that fails has changed neither the store nor the windows.
-/
theorem store_and_windows_agree (view : StoreView σ α)
    (commits : ∀ store added, view.pending store = some added → (LedgerSink.commit store).2 = .ok ())
    {classic contract : UInt32} (classicPositive : 0 < classic) (contractPositive : 0 < contract)
    (passphrase : String) (store : Rehearsal σ) (empty : view.committed store.store = []) :
    ∃ book, FeeBook.empty classic contract passphrase = .ok book ∧
      ∀ calls : List (Faults × ClosedLedger), (∀ call ∈ calls, call.1.commit = none) →
        let intake := Intake.run ⟨store, book, []⟩ calls
        (view.committed intake.store.store).Perm (intake.accepted.map view.entry) ∧
        intake.accepted.IsChain (fun earlier later => later.sequence = earlier.sequence + 1) ∧
        (∀ ledger ∈ intake.accepted, ledger.fees passphrase = .ok (ledger.charges passphrase)) ∧
        intake.book.classic.RetainsLast classic.toNat LedgerFees.classic passphrase intake.accepted ∧
        intake.book.contract.RetainsLast contract.toNat LedgerFees.contract passphrase intake.accepted ∧
        ∀ call : Faults × ClosedLedger, call.1.commit = none →
          ∀ failure, (intake.offer call).2 = .error failure →
            view.committed (intake.offer call).1.store.store = view.committed intake.store.store ∧
            (intake.offer call).1.book = intake.book := by
  rcases FeeBook.covers_empty classicPositive contractPositive passphrase with ⟨book, created, covers⟩
  refine ⟨book, created, ?_⟩
  intro calls faultless intake
  have start : Agrees ⟨store, book, []⟩ view classic.toNat contract.toNat passphrase := by
    refine ⟨?_, covers⟩
    rw [empty]
    exact .refl []
  have agrees := start.run commits calls faultless
  refine ⟨agrees.stored, agrees.covers.consecutive, agrees.covers.readable, agrees.covers.classic.retainsLast,
    agrees.covers.contract.retainsLast, ?_⟩
  intro call unfailing failure failed
  rcases agrees.offer_cases commits unfailing with ⟨after, cause, ended, kept⟩ | ⟨after, larger, ended, more⟩
  · rw [ended]
    exact ⟨kept, rfl⟩
  · rw [ended] at failed
    cases failed

/-- A ledger whose transactions each make one payment for the given fee. -/
def payments (sequence : UInt32) (fees : List Int64) : ClosedLedger where
  sequence := sequence
  closeTime := 0
  hash := ""
  protocolVersion := 22
  envelopes := fees.map fun _ => ⟨"", [.payment]⟩
  receipts := fees.map fun fee => ⟨fee, true, .first⟩

/-- A session on a table without rows. -/
def emptyTable : Rehearsal LedgerSession := .start (.on LedgerTable.blank.create)

/--
Three ledgers that are accepted, and between them a ledger after a gap, which cannot be rolled back, two failures of
the store, and a ledger with fewer outcomes than transactions.
-/
def sevenCalls : List (Faults × ClosedLedger) :=
  [(Faults.none, payments 7 [100]), ({ Faults.none with rollback := some "gone" }, payments 9 [300]),
    ({ Faults.none with insert := some "full" }, payments 8 []), (Faults.none, payments 8 [200, 150]),
    ({ Faults.none with openTransaction := some "locked" }, payments 9 []),
    (Faults.none, { payments 9 [100] with receipts := [] }), (Faults.none, payments 9 [250])]

theorem agree_after_sevenCalls :
    ∃ book, FeeBook.empty 2 1 "network" = .ok book ∧
      (LedgerSession.view.committed (Intake.run ⟨emptyTable, book, []⟩ sevenCalls).store.store).Perm
        [(payments 7 [100]).row, (payments 8 [200, 150]).row, (payments 9 [250]).row] ∧
      (Intake.run ⟨emptyTable, book, []⟩ sevenCalls).book.classic.ring.toList =
        [⟨8, 0, [200, 150]⟩, ⟨9, 0, [250]⟩] ∧
      (Intake.run ⟨emptyTable, book, []⟩ sevenCalls).book.contract.ring.toList = [⟨9, 0, []⟩] := by
  have commits : ∀ store added, LedgerSession.view.pending store = some added →
      (LedgerSink.commit store).2 = .ok () := fun _ _ writing => LedgerSession.commit_ok writing
  have faultless : ∀ call ∈ sevenCalls, call.1.commit = none := by decide
  have outcome : ((FeeBook.empty 2 1 "network").toOption.map fun book =>
      (Intake.run ⟨emptyTable, book, []⟩ sevenCalls).accepted) =
        some [payments 7 [100], payments 8 [200, 150], payments 9 [250]] := by decide +kernel
  rcases store_and_windows_agree LedgerSession.view commits (by decide : (0 : UInt32) < 2)
      (by decide : (0 : UInt32) < 1) "network" emptyTable rfl with ⟨book, created, agree⟩
  rcases agree sevenCalls faultless with ⟨stored, -, -, classic, contract, -⟩
  rw [created] at outcome
  have accepted := Option.some.inj outcome
  dsimp only at accepted
  rw [accepted] at stored classic contract
  exact ⟨book, created, stored, classic.1.trans (by decide +kernel), contract.1.trans (by decide +kernel)⟩

end Intake

end

end LedgerService

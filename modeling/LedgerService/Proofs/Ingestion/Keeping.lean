import LedgerService.Proofs.Ingestion.Agreement
import LedgerService.Proofs.Store.Contents

/-!
# What ingestions keep

What every operation of a store keeps, an ingestion keeps, and so do runs of ingestions. The rows of a ledger table stay
in order, so a table that holds the accepted ledgers holds them in the order in which they were accepted
(`Intake.Agrees.stores`).
-/

namespace LedgerService

variable {σ : Type}

/-- No operation on the store breaks the invariant, whether it succeeds or not. -/
structure LedgerSink.Keeps [LedgerSink σ] (invariant : σ → Prop) : Prop where
  openTransaction : ∀ store, invariant store → invariant (LedgerSink.openTransaction store).1
  insert : ∀ ledger store, invariant store → invariant (LedgerSink.insert ledger store).1
  commit : ∀ store, invariant store → invariant (LedgerSink.commit store).1
  rollback : ∀ store, invariant store → invariant (LedgerSink.rollback store).1

theorem LedgerSession.keeps_ordered : LedgerSink.Keeps LedgerSession.Ordered :=
  ⟨fun _ ordered => ordered.openTransaction, fun ledger _ ordered => ordered.insert ledger,
    fun _ ordered => ordered.commit, fun _ ordered => ordered.rollback⟩

namespace LedgerSink.Keeps

variable [LedgerSink σ] {invariant : σ → Prop}

theorem rehearsed (keeps : Keeps invariant) : Keeps fun rehearsal : Rehearsal σ => invariant rehearsal.store := by
  have performed : ∀ operation : σ → σ × Except Failure Unit,
      (∀ store, invariant store → invariant (operation store).1) → ∀ fault (rehearsal : Rehearsal σ),
        invariant rehearsal.store → invariant (Rehearsal.perform fault rehearsal operation).1.store := by
    intro operation kept fault rehearsal holds
    cases fault with
    | some text => exact holds
    | none => exact kept rehearsal.store holds
  constructor
  · intro rehearsal holds
    apply performed _ keeps.openTransaction
    exact holds
  · intro ledger rehearsal holds
    apply performed _ (keeps.insert ledger)
    exact holds
  · intro rehearsal holds
    apply performed _ keeps.commit
    exact holds
  · intro rehearsal holds
    apply performed _ keeps.rollback
    exact holds

theorem step (keeps : Keeps invariant) (ledger : ClosedLedger) (stage : IngestStage) {store : σ} (book : FeeBook)
    (holds : invariant store) : invariant (stage.step ledger store book).2.1 := by
  cases stage with
  | opening =>
      have kept := keeps.openTransaction store holds
      rw [IngestStage.step]
      generalize LedgerSink.openTransaction store = reached at kept ⊢
      rcases reached with ⟨opened, failure | _⟩
      · exact kept
      · exact kept
  | inserting =>
      have kept := keeps.insert ledger store holds
      rw [IngestStage.step]
      generalize LedgerSink.insert ledger store = reached at kept ⊢
      rcases reached with ⟨inserted, failure | _⟩
      · exact kept
      · exact kept
  | discarding failure => exact keeps.rollback store holds
  | entering =>
      rw [IngestStage.step]
      rcases book.append ledger with ⟨larger, failure | _⟩
      · exact holds
      · exact holds
  | abandoning failure => exact keeps.rollback store holds
  | committing => exact keeps.commit store holds
  | ended result => exact holds

theorem run (keeps : Keeps invariant) (ledger : ClosedLedger) (count : Nat) (stage : IngestStage) {store : σ}
    (book : FeeBook) (holds : invariant store) : invariant (stage.run ledger count store book).2.1 := by
  induction count generalizing stage store book with
  | zero => exact holds
  | succ count ih => exact ih _ _ (keeps.step ledger stage book holds)

theorem ingest (keeps : Keeps invariant) (ledger : ClosedLedger) {store : σ} (book : FeeBook)
    (holds : invariant store) : invariant (ingest ledger store book).1 := by
  have kept := keeps.run ledger 4 .opening book holds
  rw [LedgerService.ingest]
  generalize IngestStage.run ledger 4 .opening store book = reached at kept ⊢
  rcases reached with ⟨stage, after, larger⟩
  cases stage <;> exact kept

theorem offer (keeps : Keeps invariant) (intake : Intake σ) (call : Faults × ClosedLedger)
    (holds : invariant intake.store.store) : invariant (intake.offer call).1.store.store := by
  have facing : invariant (intake.facing call.1).store := holds
  have kept := keeps.rehearsed.ingest call.2 intake.book facing
  rw [Intake.offer]
  generalize LedgerService.ingest call.2 (intake.facing call.1) intake.book = reached at kept ⊢
  rcases reached with ⟨after, larger, failure | _⟩
  · exact kept
  · exact kept

end LedgerSink.Keeps

namespace Intake

variable {intake : Intake LedgerSession} {classic contract : Nat} {passphrase : String}

theorem Agrees.stores (agrees : intake.Agrees LedgerSession.view classic contract passphrase)
    (ordered : intake.store.store.Ordered) (consecutive : ClosedLedger.Consecutive intake.accepted) :
    intake.store.store.table.Stores intake.accepted :=
  ordered.stores_of_ascending agrees.stored consecutive.ascending

end Intake

end LedgerService

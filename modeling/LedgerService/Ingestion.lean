import LedgerService.Fees.Book
import LedgerService.Store.Access

/-!
# Ingestion

A closed ledger is stored and entered into the fee book in one storage transaction. The work is a sequence of
stages, each of which calls the store or the book once, so that others may look at both between any two stages.
-/

namespace LedgerService

variable {σ : Type}

/-- How far the ingestion of a ledger has come. -/
inductive IngestStage where
  | opening
  | inserting
  /-- The ledger could not be inserted, and the transaction is to be rolled back. -/
  | discarding (cause : Failure)
  | entering
  /-- The fee book refused the ledger, and the transaction is to be rolled back. -/
  | abandoning (cause : FeeFailure)
  | committing
  | ended (result : Except Failure Unit)

namespace IngestStage

/-- The ingestion has come to an end. -/
def result? : IngestStage → Option (Except Failure Unit)
  | .ended result => some result
  | _ => none

/-- Does the work of a stage. -/
def step [LedgerSink σ] (ledger : ClosedLedger) (stage : IngestStage) (store : σ) (book : FeeBook) :
    IngestStage × σ × FeeBook :=
  match stage with
  | .opening =>
    match LedgerSink.openTransaction store with
    | (store, .ok ()) => (.inserting, store, book)
    | (store, .error failure) => (.ended (.error failure), store, book)
  | .inserting =>
    match LedgerSink.insert ledger store with
    | (store, .ok ()) => (.entering, store, book)
    | (store, .error failure) => (.discarding failure, store, book)
  | .discarding failure =>
    let (store, _) := LedgerSink.rollback store
    (.ended (.error failure), store, book)
  | .entering =>
    match book.append ledger with
    | (book, .ok ()) => (.committing, store, book)
    | (book, .error failure) => (.abandoning failure, store, book)
  | .abandoning failure =>
    let (store, outcome) := LedgerSink.rollback store
    (.ended (.error (.fees (failure.afterRollback outcome))), store, book)
  | .committing =>
    let (store, outcome) := LedgerSink.commit store
    (.ended outcome, store, book)
  | .ended result => (.ended result, store, book)

/-- Does the work of so many stages. -/
def run [LedgerSink σ] (ledger : ClosedLedger) : Nat → IngestStage → σ → FeeBook → IngestStage × σ × FeeBook
  | 0, stage, store, book => (stage, store, book)
  | count + 1, stage, store, book =>
    let (stage, store, book) := step ledger stage store book
    run ledger count stage store book

end IngestStage

/-- Stores a ledger and enters it into the fee book. -/
def ingest [LedgerSink σ] (ledger : ClosedLedger) (store : σ) (book : FeeBook) :
    σ × FeeBook × Except Failure Unit :=
  match IngestStage.run ledger 4 .opening store book with
  | (.ended result, store, book) => (store, book, result)
  | (_, store, book) => (store, book, .ok ())

/-- Stores ledgers one after the other, up to the first failure. -/
def ingestAll [LedgerSink σ] : List ClosedLedger → σ → FeeBook → σ × FeeBook × Except Failure Unit
  | [], store, book => (store, book, .ok ())
  | ledger :: others, store, book =>
    match ingest ledger store book with
    | (store, book, .ok ()) => ingestAll others store book
    | (store, book, .error failure) => (store, book, .error failure)

/--
Enters a ledger into the fee book on behalf of an open transaction, which is rolled back when the book refuses the
ledger.
-/
def FeeBook.enter [LedgerSink σ] (ledger : ClosedLedger) (store : σ) (book : FeeBook) :
    σ × FeeBook × Except FeeFailure Unit :=
  match book.append ledger with
  | (book, .ok ()) => (store, book, .ok ())
  | (book, .error failure) =>
    let (store, outcome) := LedgerSink.rollback store
    (store, book, .error (failure.afterRollback outcome))

end LedgerService

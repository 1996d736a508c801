import LedgerService.Ingestion

/-!
# Replay

At the start of the service the newest stored ledgers are entered into the empty fee book once more, in batches
and in the order of their sequences.
-/

namespace LedgerService.Replay

variable {σ : Type}

/-- The number of ledgers fetched at a time. -/
def batchSize : UInt32 := 100

/-- Enters ledgers into the book, up to the first refusal; also counts those entered. -/
def enterAll [LedgerSink σ] : List ClosedLedger → σ → FeeBook → UInt32 →
    σ × FeeBook × Except FeeFailure UInt32
  | [], store, book, count => (store, book, .ok count)
  | ledger :: others, store, book, count =>
    match book.enter ledger store with
    | (store, book, .ok ()) => enterAll others store book (count + 1)
    | (store, book, .error failure) => (store, book, .error failure)

/-- Fetches and enters batch after batch, each of at most `size` ledgers, from a sequence to the last one. -/
def batches [LedgerSource σ] [LedgerSink σ] (size last : UInt32) : Nat → UInt32 → σ → FeeBook → UInt32 →
    σ × FeeBook × Except Failure UInt32
  | 0, _, store, book, count => (store, book, .ok count)
  | fuel + 1, next, store, book, count =>
    if last < next then (store, book, .ok count)
    else
      match LedgerSource.ledgers store next (min size (last - next + 1)) with
      | .error failure => (store, book, .error failure)
      | .ok ledgers =>
        match enterAll ledgers store book count with
        | (store, book, .error failure) => (store, book, .error (.fees failure))
        | (store, book, .ok count) =>
          match ledgers.getLast? with
          | none => (store, book, .ok count)
          | some newest =>
            if newest.sequence < last then batches size last fuel (newest.sequence + 1) store book count
            else (store, book, .ok count)

/-- More batches than there are sequences. -/
def batchLimit : Nat := UInt32.size

/-- Enters the last ledgers of the store, at most `retention` of them, in batches; gives their number. -/
def runBy [LedgerSource σ] [LedgerSink σ] (size retention : UInt32) (store : σ) (book : FeeBook) :
    σ × FeeBook × Except Failure UInt32 :=
  match LedgerSource.range store with
  | .error failure => (store, book, .error failure)
  | .ok none => (store, book, .ok 0)
  | .ok (some range) =>
    let wanted := range.tail retention
    match LedgerSink.openTransaction store with
    | (store, .error failure) => (store, book, .error failure)
    | (store, .ok ()) =>
      match batches size wanted.last batchLimit wanted.first store book 0 with
      | (store, book, .error failure) => (store, book, .error failure)
      | (store, book, .ok count) =>
        match LedgerSink.commit store with
        | (store, .ok ()) => (store, book, .ok count)
        | (store, .error failure) => (store, book, .error failure)

/-- Enters the last ledgers of the store in batches of the usual size. -/
def run [LedgerSource σ] [LedgerSink σ] (retention : UInt32) (store : σ) (book : FeeBook) :
    σ × FeeBook × Except Failure UInt32 :=
  runBy batchSize retention store book

end LedgerService.Replay

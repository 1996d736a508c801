import LedgerService.Failure
import LedgerService.Ledger.Basic
import LedgerService.Ledger.Range

/-!
# Access to stored ledgers

What the service asks of a store: to be read, and to be written in transactions, one at a time.
-/

namespace LedgerService

/-- A store of ledgers that can be read. -/
class LedgerSource (σ : Type) where
  /-- The range of the stored sequences, none for an empty store. -/
  range : σ → Except Failure (Option SequenceRange)
  /-- The header of the newest ledger. -/
  latest : σ → Except Failure (Option LedgerSummary)
  /-- The first ledgers, at most `limit` of them, from the sequence `start` on. -/
  ledgers : σ → (start limit : UInt32) → Except Failure (List ClosedLedger)

/-- A store of ledgers that is written in transactions, one at a time; a failure may leave a trace, too. -/
class LedgerSink (σ : Type) where
  openTransaction : σ → σ × Except Failure Unit
  insert : ClosedLedger → σ → σ × Except Failure Unit
  commit : σ → σ × Except Failure Unit
  rollback : σ → σ × Except Failure Unit

end LedgerService

import LedgerService.Failure
import LedgerService.Ledger.Basic

/-!
# Transactions of a ledger

Each submitted transaction paired with its outcome.
-/

namespace LedgerService

/-- One transaction of a ledger: its position, what was submitted, and what came of it. -/
structure LedgerTransaction where
  index : Nat
  envelope : Envelope
  receipt : Receipt
deriving DecidableEq, Repr, Inhabited

/-- The transactions of a ledger on the network with the given passphrase. -/
def ClosedLedger.transactions (ledger : ClosedLedger) (passphrase : String) :
    Except MalformedLedger (List LedgerTransaction) :=
  if passphrase.isEmpty then .error .missingPassphrase
  else if ledger.envelopes.length ≠ ledger.receipts.length then
    .error (.countMismatch ledger.sequence ledger.envelopes.length ledger.receipts.length)
  else
    .ok ((ledger.envelopes.zip ledger.receipts).zipIdx.map fun ((envelope, receipt), index) =>
      ⟨index, envelope, receipt⟩)

end LedgerService

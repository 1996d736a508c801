import LedgerService.Fees.Window
import LedgerService.Ledger.Transaction

/-!
# The fee book

The two fee windows of the service, one for classic transactions and one for smart-contract transactions, and the
fees that a ledger contributes to each.
-/

namespace LedgerService

/-- The fees that one ledger contributes, in the order of its transactions. -/
structure LedgerFees where
  classic : List UInt64
  contract : List UInt64
deriving DecidableEq, Repr, Inhabited

/-- The two fee windows of a network. -/
structure FeeBook where
  classic : FeeWindow
  contract : FeeWindow
  passphrase : String

/-- A fee divided evenly among so many operations, rounded down. -/
def feePerOperation (charged : UInt64) (operations : Nat) : UInt64 := UInt64.ofNat (charged.toNat / operations)

/-- The fee that a transaction contributes to the classic window: the fee charged for each operation. -/
def LedgerTransaction.classicFee? (transaction : LedgerTransaction) : Option UInt64 :=
  match transaction.envelope.operations with
  | [] => none
  | [operation] => if operation.isContract then none else some transaction.receipt.fee
  | operations => some (feePerOperation transaction.receipt.fee operations.length)

/-- A fee less a resource fee, none below zero; a negative resource fee counts as none. -/
def inclusionFee (charged : UInt64) (resource : Int64) : UInt64 :=
  UInt64.ofNat (charged.toNat - resource.toInt.toNat)

/--
The fee that a transaction contributes to the smart-contract window: what is charged beyond the resource fee, of a
single smart-contract operation whose metadata carries that fee.
-/
def LedgerTransaction.contractFee? (transaction : LedgerTransaction) : Option UInt64 :=
  match transaction.envelope.operations with
  | [operation] =>
    if operation.isContract then
      transaction.receipt.applied.resourceFee.map (inclusionFee transaction.receipt.fee)
    else none
  | _ => none

/-- The fees that a ledger contributes on the network with the given passphrase. -/
def ClosedLedger.fees (ledger : ClosedLedger) (passphrase : String) : Except FeeFailure LedgerFees :=
  match ledger.transactions passphrase with
  | .error cause => .error (.malformed cause)
  | .ok transactions =>
    .ok ⟨transactions.filterMap LedgerTransaction.classicFee?,
      transactions.filterMap LedgerTransaction.contractFee?⟩

namespace FeeBook

/-- Two empty windows, each for a positive number of ledgers. -/
def empty (classicRetention contractRetention : UInt32) (passphrase : String) : Except FeeFailure FeeBook := do
  let contract ← FeeWindow.empty contractRetention
  let classic ← FeeWindow.empty classicRetention
  return { classic, contract, passphrase }

/--
Enters a ledger into both windows, the classic one first. When the second one refuses the ledger the first one
keeps it.
-/
def append (book : FeeBook) (ledger : ClosedLedger) : FeeBook × Except FeeFailure Unit :=
  match ledger.fees book.passphrase with
  | .error failure => (book, .error failure)
  | .ok fees =>
    match book.classic.offer ⟨ledger.sequence, ledger.closeTime, fees.classic⟩ with
    | (classic, .error failure) => ({ book with classic }, .error failure)
    | (classic, .ok ()) =>
      let (contract, result) := book.contract.offer ⟨ledger.sequence, ledger.closeTime, fees.contract⟩
      ({ book with classic, contract }, result)

end FeeBook

end LedgerService

import LedgerService.Word

/-!
# Closed ledgers

What happened when a ledger closed: its header, the transactions as they were submitted, and for each of them the
outcome of applying it.
-/

namespace LedgerService

/-- The kinds of operation that matter for fees. -/
inductive Operation where
  | createAccount
  | payment
  | pathPaymentStrictReceive
  | pathPaymentStrictSend
  | manageSellOffer
  | manageBuyOffer
  | changeTrust
  | accountMerge
  | manageData
  | invokeHostFunction
  | extendFootprintTtl
  | restoreFootprint
  /-- Any other classic operation. -/
  | other
deriving DecidableEq, Repr, Inhabited

/-- The operation runs or maintains a smart contract, and is charged by metered resources. -/
def Operation.isContract : Operation → Bool
  | .invokeHostFunction | .extendFootprintTtl | .restoreFootprint => true
  | _ => false

/-- A transaction as submitted to the network. -/
structure Envelope where
  sourceAccount : String
  operations : List Operation
deriving DecidableEq, Repr, Inhabited

/-- What a smart-contract transaction reports about its resource fees. -/
inductive ContractExtension where
  | plain
  | charged (nonRefundable refundable : Int64)
deriving DecidableEq, Repr, Inhabited

/-- The metadata of a smart-contract transaction. -/
structure ContractMeta where
  extension : ContractExtension
deriving DecidableEq, Repr, Inhabited

/-- The metadata of an applied transaction, in its four versions. -/
inductive ApplyMeta where
  | first
  | second
  | third (contract : Option ContractMeta)
  | fourth (contract : Option ContractMeta)
deriving DecidableEq, Repr, Inhabited

/-- The outcome of applying a transaction. -/
structure Receipt where
  feeCharged : Int64
  successful : Bool
  applied : ApplyMeta
deriving DecidableEq, Repr, Inhabited

/-- Everything that happened when a ledger closed. -/
structure ClosedLedger where
  sequence : UInt32
  /-- The close time in seconds. -/
  closeTime : Int64
  hash : String
  protocolVersion : UInt32
  /-- The transactions in the order in which they were applied. -/
  envelopes : List Envelope
  /-- The outcomes, one per transaction and in the same order. -/
  receipts : List Receipt
deriving DecidableEq, Repr, Inhabited

/-- The header of a stored ledger. -/
structure LedgerSummary where
  sequence : UInt32
  hash : String
  closeTime : Int64
  protocolVersion : UInt32
deriving DecidableEq, Repr, Inhabited

/-- The header of a ledger. -/
def ClosedLedger.summary (ledger : ClosedLedger) : LedgerSummary :=
  ⟨ledger.sequence, ledger.hash, ledger.closeTime, ledger.protocolVersion⟩

/-- The signed number of 64 bits nearest to an integer. -/
def nearest64 (value : Int) : Int64 :=
  Int64.ofInt (max Word.least64 (min Word.most64 value))

/-- The resource fee charged, if this version of the metadata carries it. -/
def ApplyMeta.resourceFee : ApplyMeta → Option Int64
  | .third (some ⟨.charged nonRefundable refundable⟩)
  | .fourth (some ⟨.charged nonRefundable refundable⟩) =>
    some (nearest64 (nonRefundable.toInt + refundable.toInt))
  | _ => none

/-- The fee charged, none below zero. -/
def Receipt.fee (receipt : Receipt) : UInt64 := UInt64.ofNat receipt.feeCharged.toInt.toNat

end LedgerService

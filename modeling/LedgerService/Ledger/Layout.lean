import LedgerService.Ledger.Basic
import LedgerService.Schema.Encode
import LedgerService.Schema.Read

/-!
# The JSON layout of ledgers

The schemas of a closed ledger and of its parts.
-/

namespace LedgerService

/-- The names of the operations. -/
def Operation.name : Operation → String
  | .createAccount => "create_account"
  | .payment => "payment"
  | .pathPaymentStrictReceive => "path_payment_strict_receive"
  | .pathPaymentStrictSend => "path_payment_strict_send"
  | .manageSellOffer => "manage_sell_offer"
  | .manageBuyOffer => "manage_buy_offer"
  | .changeTrust => "change_trust"
  | .accountMerge => "account_merge"
  | .manageData => "manage_data"
  | .invokeHostFunction => "invoke_host_function"
  | .extendFootprintTtl => "extend_footprint_ttl"
  | .restoreFootprint => "restore_footprint"
  | .other => "other"

/-- All operations, in the order in which messages list them. -/
def Operation.all : List Operation :=
  [.createAccount, .payment, .pathPaymentStrictReceive, .pathPaymentStrictSend, .manageSellOffer,
    .manageBuyOffer, .changeTrust, .accountMerge, .manageData, .invokeHostFunction, .extendFootprintTtl,
    .restoreFootprint, .other]

/-- The operation with a name. -/
def Operation.ofName? (name : String) : Option Operation :=
  Operation.all.find? fun operation => operation.name == name

/-- An operation is written as its name. -/
def Operation.schema : Schema Operation :=
  .choice (Operation.all.map Operation.name) Operation.ofName? Operation.name

/-- The layout of a submitted transaction. -/
def Envelope.schema : Schema Envelope :=
  .record "TransactionEnvelope"
    (.field "sourceAccount" .required .text <|
      .field "operations" .required (.list Operation.schema) .done)
    (fun (sourceAccount, operations, ()) => ⟨sourceAccount, operations⟩)
    (fun envelope => (envelope.sourceAccount, envelope.operations, ()))

/-- The layout of an extension: its version, and the fees of the later one. -/
def ContractExtension.schema : Schema ContractExtension :=
  .tagged "SorobanMetaExt" "v"
    (.bare "v0" <|
      .fields "v1" "V1"
        (.field "totalNonRefundableResourceFeeCharged" .required .signed64 <|
          .field "totalRefundableResourceFeeCharged" .required .signed64 .done)
        .done)
    (fun
      | .inl () => .plain
      | .inr (.inl (nonRefundable, refundable, ())) => .charged nonRefundable refundable)
    (fun
      | .plain => .inl ()
      | .charged nonRefundable refundable => .inr (.inl (nonRefundable, refundable, ())))

/-- The layout of smart-contract metadata. -/
def ContractMeta.schema : Schema ContractMeta :=
  .record "SorobanTransactionMeta"
    (.field "ext" .required ContractExtension.schema .done)
    (fun (extension, ()) => ⟨extension⟩)
    (fun contract => (contract.extension, ()))

/-- The fields of the later two versions of the metadata. -/
def ApplyMeta.contractFields : Fields (Option ContractMeta × Unit) :=
  .field "sorobanMeta" (.defaulted none) (.optional ContractMeta.schema) .done

/-- The layout of transaction metadata: its version, and what the later two add. -/
def ApplyMeta.schema : Schema ApplyMeta :=
  .tagged "TransactionMeta" "v"
    (.bare "v1" <| .bare "v2" <| .fields "v3" "V3" contractFields <| .fields "v4" "V4" contractFields .done)
    (fun
      | .inl () => .first
      | .inr (.inl ()) => .second
      | .inr (.inr (.inl (contract, ()))) => .third contract
      | .inr (.inr (.inr (.inl (contract, ())))) => .fourth contract)
    (fun
      | .first => .inl ()
      | .second => .inr (.inl ())
      | .third contract => .inr (.inr (.inl (contract, ())))
      | .fourth contract => .inr (.inr (.inr (.inl (contract, ())))))

/-- The layout of an outcome. -/
def Receipt.schema : Schema Receipt :=
  .record "TransactionResultMeta"
    (.field "feeCharged" .required .signed64 <|
      .field "successful" .required .boolean <|
        .field "meta" .required ApplyMeta.schema .done)
    (fun (feeCharged, successful, applied, ()) => ⟨feeCharged, successful, applied⟩)
    (fun receipt => (receipt.feeCharged, receipt.successful, receipt.applied, ()))

/-- The layout of a closed ledger; its lists may be left out. -/
def ClosedLedger.schema : Schema ClosedLedger :=
  .record "LedgerCloseMeta"
    (.field "sequence" .required .word32 <|
      .field "closeTime" .required .signed64 <|
        .field "hash" .required .text <|
          .field "protocolVersion" .required .word32 <|
            .field "transactions" (.defaulted []) (.list Envelope.schema) <|
              .field "txProcessing" (.defaulted []) (.list Receipt.schema) .done)
    (fun (sequence, closeTime, hash, protocolVersion, envelopes, receipts, ()) =>
      ⟨sequence, closeTime, hash, protocolVersion, envelopes, receipts⟩)
    (fun ledger =>
      (ledger.sequence, ledger.closeTime, ledger.hash, ledger.protocolVersion, ledger.envelopes,
        ledger.receipts, ()))

end LedgerService

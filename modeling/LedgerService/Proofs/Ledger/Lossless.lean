import LedgerService.Proofs.Schema.Encoding
import LedgerService.Rpc.Types

/-!
# The layouts of ledgers and reports are lossless

Field by field, the layouts of a ledger, of a page of ledgers and of a report on fees determine what they lay out: the
keys of a record differ, the names of a choice differ, and what may be left out is what a missing field stands for.
-/

namespace LedgerService

section Rules

variable {α β : Type} {key : String} {schema : Schema α} {rest : Fields β}

theorem Fields.Lossless.required (fresh : key ∉ rest.keys) (own : schema.Lossless) (others : rest.Lossless) :
    (Fields.field key .required schema rest).Lossless :=
  ⟨fresh, (fun _ omitted => absurd omitted Bool.false_ne_true), own, others⟩

theorem Fields.Lossless.defaulted {value : α} (fresh : key ∉ rest.keys) (own : schema.Lossless)
    (others : rest.Lossless) : (Fields.field key (.defaulted value) schema rest).Lossless :=
  ⟨fresh, (fun _ omitted => absurd omitted Bool.false_ne_true), own, others⟩

end Rules

theorem Operation.ofName?_name (operation : Operation) : Operation.ofName? operation.name = some operation := by
  cases operation <;> rfl

theorem Operation.lossless_schema : Operation.schema.Lossless := Operation.ofName?_name

theorem Envelope.lossless_schema : Envelope.schema.Lossless := by
  refine ⟨?_, fun _ => rfl⟩
  refine .required (by decide) trivial ?_
  exact .required (by decide) Operation.lossless_schema trivial

theorem ContractExtension.lossless_schema : ContractExtension.schema.Lossless := by
  refine ⟨⟨by decide, ?_, trivial⟩, by decide, ?_⟩
  · exact .required (by decide) trivial (.required (by decide) trivial trivial)
  · intro extension
    cases extension <;> rfl

theorem ContractMeta.lossless_schema : ContractMeta.schema.Lossless :=
  ⟨.required (by decide) ContractExtension.lossless_schema trivial, fun _ => rfl⟩

theorem ApplyMeta.lossless_schema : ApplyMeta.schema.Lossless := by
  have fields : ApplyMeta.contractFields.Lossless :=
    .defaulted (by decide) ⟨ContractMeta.lossless_schema, trivial⟩ trivial
  refine ⟨⟨by decide, fields, by decide, fields, trivial⟩, by decide, ?_⟩
  intro applied
  cases applied <;> rfl

theorem Receipt.lossless_schema : Receipt.schema.Lossless := by
  refine ⟨?_, fun _ => rfl⟩
  refine .required (by decide) trivial ?_
  refine .required (by decide) trivial ?_
  exact .required (by decide) ApplyMeta.lossless_schema trivial

theorem ClosedLedger.lossless_schema : ClosedLedger.schema.Lossless := by
  refine ⟨?_, fun _ => rfl⟩
  refine .required (by decide) trivial ?_
  refine .required (by decide) trivial ?_
  refine .required (by decide) trivial ?_
  refine .required (by decide) trivial ?_
  refine .defaulted (by decide) Envelope.lossless_schema ?_
  exact .defaulted (by decide) Receipt.lossless_schema trivial

theorem LedgerEntry.lossless_schema : LedgerEntry.schema.Lossless := by
  refine ⟨?_, fun _ => rfl⟩
  refine .required (by decide) trivial ?_
  refine .required (by decide) trivial ?_
  refine .required (by decide) trivial ?_
  exact .required (by decide) ClosedLedger.lossless_schema trivial

theorem LedgersResponse.lossless_schema : LedgersResponse.schema.Lossless := by
  refine ⟨?_, fun _ => rfl⟩
  refine .required (by decide) LedgerEntry.lossless_schema ?_
  refine .required (by decide) trivial ?_
  refine .required (by decide) trivial ?_
  refine .required (by decide) trivial ?_
  refine .required (by decide) trivial ?_
  exact .required (by decide) trivial trivial

theorem StatisticsResponse.lossless_schema : StatisticsResponse.schema.Lossless := by
  refine ⟨?_, fun _ => rfl⟩
  iterate 15 refine .required (by decide) trivial ?_
  exact .required (by decide) trivial trivial

theorem FeeStatsResponse.lossless_schema : FeeStatsResponse.schema.Lossless := by
  refine ⟨?_, fun _ => rfl⟩
  refine .required (by decide) StatisticsResponse.lossless_schema ?_
  refine .required (by decide) StatisticsResponse.lossless_schema ?_
  exact .required (by decide) trivial trivial

theorem Pagination.lossless_schema : Pagination.schema.Lossless := by
  refine ⟨?_, fun _ => rfl⟩
  refine .defaulted (by decide) ⟨trivial, trivial⟩ ?_
  exact .defaulted (by decide) trivial trivial

theorem LedgersRequest.lossless_schema : LedgersRequest.schema.Lossless := by
  refine ⟨?_, fun _ => rfl⟩
  refine .defaulted (by decide) trivial ?_
  exact .defaulted (by decide) ⟨Pagination.lossless_schema, trivial⟩ trivial

theorem ClosedLedger.shallow_schema : ClosedLedger.schema.depth < Json.levelLimit := by
  decide

theorem LedgersResponse.shallow_schema : LedgersResponse.schema.depth < Json.levelLimit := by
  decide

end LedgerService

import LedgerService.Proofs.Ingestion.Entering
import Mathlib.Data.List.Forall2

/-!
# Contributions

What each transaction of a ledger contributes to the fees, reckoned in integers without bounds (`Contributes`), against
the fees that are read in words. The sum of the resource fees is kept within a signed word, and so is the fee charged;
where the sum would leave the word it is greater than every fee charged or below zero, so that nothing is left over or
nothing is taken off either way (`toNat_inclusionFee`). A ledger that is entered into the book therefore adds the
contributions of its transactions, in their order, to both windows (`FeeBook.contributions_of_enter`).
-/

namespace LedgerService

variable {σ : Type}

/-- What a transaction contributes: nothing, or one fee to one of the two series. -/
inductive Share where
  | nothing
  | classic (fee : Int)
  | contract (fee : Int)

/-- The fee that is contributed to the classic series. -/
def Share.classic? : Share → Option Int
  | .classic fee => some fee
  | _ => none

/-- The fee that is contributed to the series of smart contracts. -/
def Share.contract? : Share → Option Int
  | .contract fee => some fee
  | _ => none

/-- The metadata reports resource fees, which its third and its fourth version can. -/
inductive ApplyMeta.Charges (nonRefundable refundable : Int64) : ApplyMeta → Prop where
  | third : Charges nonRefundable refundable (.third (some ⟨.charged nonRefundable refundable⟩))
  | fourth : Charges nonRefundable refundable (.fourth (some ⟨.charged nonRefundable refundable⟩))

/-- The transaction has one operation only, which runs or maintains a smart contract. -/
def Envelope.IsContract (envelope : Envelope) : Prop :=
  ∃ operation, envelope.operations = [operation] ∧ operation.isContract = true

/-- The transaction has several operations, or one that has nothing to do with smart contracts. -/
def Envelope.IsClassic (envelope : Envelope) : Prop :=
  2 ≤ envelope.operations.length ∨ ∃ operation, envelope.operations = [operation] ∧ operation.isContract = false

/-- What a transaction contributes, by its operations and its outcome. -/
inductive Contributes (envelope : Envelope) (receipt : Receipt) : Share → Prop where
  | contract {nonRefundable refundable : Int64} (kind : envelope.IsContract)
      (charges : receipt.applied.Charges nonRefundable refundable) :
      Contributes envelope receipt (.contract
        (max 0 (max 0 receipt.feeCharged.toInt - max 0 (nonRefundable.toInt + refundable.toInt))))
  | classic (kind : envelope.IsClassic) :
      Contributes envelope receipt (.classic (max 0 receipt.feeCharged.toInt / envelope.operations.length))
  | nothing (notClassic : ¬envelope.IsClassic)
      (free : envelope.IsContract → ∀ nonRefundable refundable, ¬receipt.applied.Charges nonRefundable refundable) :
      Contributes envelope receipt .nothing

theorem Envelope.IsContract.not_isClassic {envelope : Envelope} (kind : envelope.IsContract) : ¬envelope.IsClassic := by
  rcases kind with ⟨operation, single, isContract⟩
  simp [IsClassic, single, isContract]

/-- The metadata reports resource fees, or it has none to take into account. -/
theorem ApplyMeta.charges_cases (applied : ApplyMeta) :
    (∃ nonRefundable refundable, applied.Charges nonRefundable refundable ∧
      applied.resourceFee = some (nearest64 (nonRefundable.toInt + refundable.toInt))) ∨
    (∀ nonRefundable refundable, ¬applied.Charges nonRefundable refundable) ∧ applied.resourceFee = none := by
  rcases applied with _ | _ | contract | contract
  · exact .inr ⟨nofun, rfl⟩
  · exact .inr ⟨nofun, rfl⟩
  · rcases contract with _ | ⟨_ | ⟨nonRefundable, refundable⟩⟩
    · exact .inr ⟨nofun, rfl⟩
    · exact .inr ⟨nofun, rfl⟩
    · exact .inl ⟨nonRefundable, refundable, .third, rfl⟩
  · rcases contract with _ | ⟨_ | ⟨nonRefundable, refundable⟩⟩
    · exact .inr ⟨nofun, rfl⟩
    · exact .inr ⟨nofun, rfl⟩
    · exact .inl ⟨nonRefundable, refundable, .fourth, rfl⟩

theorem ApplyMeta.Charges.unique {applied : ApplyMeta} {nonRefundable refundable other another : Int64}
    (charges : applied.Charges nonRefundable refundable) (too : applied.Charges other another) :
    nonRefundable = other ∧ refundable = another := by
  cases charges with
  | third =>
      cases too
      exact ⟨rfl, rfl⟩
  | fourth =>
      cases too
      exact ⟨rfl, rfl⟩

theorem Receipt.toNat_fee (receipt : Receipt) : (receipt.fee.toNat : Int) = max 0 receipt.feeCharged.toInt := by
  have bound := receipt.feeCharged.toInt_lt
  have small : receipt.feeCharged.toInt.toNat < UInt64.size := by
    simp only [UInt64.size]
    omega
  rw [Receipt.fee, UInt64.toNat_ofNat_of_lt' small]
  omega

theorem toNat_feePerOperation (charged : UInt64) (operations : Nat) :
    ((feePerOperation charged operations).toNat : Int) = charged.toNat / operations := by
  have bound := charged.toNat_lt
  have small : charged.toNat / operations < UInt64.size := Nat.lt_of_le_of_lt (Nat.div_le_self _ _) bound
  rw [feePerOperation, UInt64.toNat_ofNat_of_lt' small]
  exact Int.natCast_ediv _ _

theorem toInt_nearest64 (value : Int) : (nearest64 value).toInt = max Word.least64 (min Word.most64 value) := by
  rw [nearest64, Int64.toInt_ofInt_of_le]
  · unfold Word.least64 Word.most64
    omega
  · unfold Word.least64 Word.most64
    omega

/--
Of a fee that fits a signed word the exact resource fee is taken off: a sum kept at the greatest signed word leaves
nothing as the sum itself would, and one kept at the least counts as none.
-/
theorem toNat_inclusionFee {charged : UInt64} (signed : (charged.toNat : Int) ≤ Word.most64) (resource : Int) :
    ((inclusionFee charged (nearest64 resource)).toNat : Int) = max 0 (charged.toNat - max 0 resource) := by
  have bound := charged.toNat_lt
  have small : charged.toNat - (nearest64 resource).toInt.toNat < UInt64.size :=
    Nat.lt_of_le_of_lt (Nat.sub_le _ _) bound
  rw [inclusionFee, UInt64.toNat_ofNat_of_lt' small, toInt_nearest64]
  unfold Word.least64 Word.most64 at *
  omega

namespace Contributes

variable {envelope : Envelope} {receipt : Receipt} {share other : Share}

/-- A transaction makes one contribution only. -/
theorem unique (contributes : Contributes envelope receipt share) (too : Contributes envelope receipt other) :
    share = other := by
  cases contributes with
  | contract kind charges =>
      cases too with
      | contract _ chargesToo =>
          rcases charges.unique chargesToo with ⟨rfl, rfl⟩
          rfl
      | classic classic => exact absurd classic kind.not_isClassic
      | nothing _ free => exact absurd charges (free kind _ _)
  | classic kind =>
      cases too with
      | contract contract => exact absurd kind contract.not_isClassic
      | classic => rfl
      | nothing notClassic => exact absurd kind notClassic
  | nothing notClassic free =>
      cases too with
      | contract kind charges => exact absurd charges (free kind _ _)
      | classic kind => exact absurd kind notClassic
      | nothing => rfl

theorem iff_eq (contributes : Contributes envelope receipt share) (other : Share) :
    Contributes envelope receipt other ↔ other = share := by
  constructor
  · intro too
    exact too.unique contributes
  · rintro rfl
    exact contributes

end Contributes

/-- The fees that are read of a transaction, in words, are those of its contribution. -/
theorem LedgerTransaction.exists_contribution (transaction : LedgerTransaction) :
    ∃ share, Contributes transaction.envelope transaction.receipt share ∧
      transaction.classicFee?.map (fun fee => (fee.toNat : Int)) = share.classic? ∧
      transaction.contractFee?.map (fun fee => (fee.toNat : Int)) = share.contract? := by
  rcases transaction with ⟨index, ⟨account, operations⟩, receipt⟩
  have charged := receipt.toNat_fee
  rcases operations with _ | ⟨operation, _ | ⟨second, others⟩⟩
  · refine ⟨.nothing, .nothing ?_ ?_, rfl, rfl⟩
    · simp [Envelope.IsClassic]
    · rintro ⟨operation, single, -⟩
      cases single
  · cases kind : operation.isContract with
    | true =>
        have contract : Envelope.IsContract ⟨account, [operation]⟩ := ⟨operation, rfl, kind⟩
        rcases receipt.applied.charges_cases with ⟨nonRefundable, refundable, charges, resource⟩ | ⟨free, resource⟩
        · refine ⟨_, .contract contract charges, ?_, ?_⟩
          · simp [LedgerTransaction.classicFee?, kind, Share.classic?]
          · have signed : (receipt.fee.toNat : Int) ≤ Word.most64 := by
              have bound := receipt.feeCharged.toInt_lt
              unfold Word.most64
              omega
            simp [LedgerTransaction.contractFee?, kind, resource, toNat_inclusionFee signed, charged, Share.contract?]
        · refine ⟨.nothing, .nothing contract.not_isClassic (fun _ => free), ?_, ?_⟩
          · simp [LedgerTransaction.classicFee?, kind, Share.classic?]
          · simp [LedgerTransaction.contractFee?, kind, resource, Share.contract?]
    | false =>
        refine ⟨_, .classic (.inr ⟨operation, rfl, kind⟩), ?_, ?_⟩
        · simp [LedgerTransaction.classicFee?, kind, charged, Share.classic?]
        · simp [LedgerTransaction.contractFee?, kind, Share.contract?]
  · refine ⟨_, .classic (.inl (by simp)), ?_, rfl⟩
    simp [LedgerTransaction.classicFee?, toNat_feePerOperation, charged, Share.classic?]

/-- The contributions of some transactions, one for each and in their order, make up what is read of them. -/
theorem exists_contributions (transactions : List LedgerTransaction) :
    ∃ shares, List.Forall₂ (fun transaction : LedgerTransaction => Contributes transaction.envelope transaction.receipt)
        transactions shares ∧
      (transactions.filterMap LedgerTransaction.classicFee?).map (fun fee => (fee.toNat : Int)) =
        shares.filterMap Share.classic? ∧
      (transactions.filterMap LedgerTransaction.contractFee?).map (fun fee => (fee.toNat : Int)) =
        shares.filterMap Share.contract? := by
  induction transactions with
  | nil => exact ⟨[], .nil, rfl, rfl⟩
  | cons transaction others ih =>
      rcases ih with ⟨shares, contribute, classic, contract⟩
      rcases transaction.exists_contribution with ⟨share, contributes, classicShare, contractShare⟩
      refine ⟨share :: shares, .cons contributes contribute, ?_, ?_⟩
      · rw [List.map_filterMap] at classic ⊢
        rw [List.filterMap_cons, List.filterMap_cons, classicShare, classic]
      · rw [List.map_filterMap] at contract ⊢
        rw [List.filterMap_cons, List.filterMap_cons, contractShare, contract]

/-- A ledger with an outcome for each transaction can be read, and its fees are the contributions of the transactions. -/
theorem ClosedLedger.exists_contributions {ledger : ClosedLedger} {passphrase : String} (named : passphrase ≠ "")
    (paired : ledger.envelopes.length = ledger.receipts.length) :
    ∃ shares, ledger.fees passphrase = .ok (ledger.charges passphrase) ∧
      List.Forall₂ (fun transaction => Contributes transaction.1 transaction.2) (ledger.envelopes.zip ledger.receipts)
        shares ∧
      (ledger.charges passphrase).classic.map (fun fee => (fee.toNat : Int)) = shares.filterMap Share.classic? ∧
      (ledger.charges passphrase).contract.map (fun fee => (fee.toNat : Int)) = shares.filterMap Share.contract? := by
  cases read : ledger.transactions passphrase with
  | error cause => simp [transactions, named, paired] at read
  | ok listed =>
      have readable : ledger.fees passphrase =
          .ok ⟨listed.filterMap LedgerTransaction.classicFee?, listed.filterMap LedgerTransaction.contractFee?⟩ := by
        rw [fees, read]
      have pairs : listed.map (fun transaction => (transaction.envelope, transaction.receipt)) =
          ledger.envelopes.zip ledger.receipts := by
        simp only [transactions, String.isEmpty_iff, named, paired, ↓reduceIte, ne_eq, not_true_eq_false,
          Except.ok.injEq] at read
        rw [← read, List.map_map]
        exact List.zipIdx_map_fst 0 _
      rcases LedgerService.exists_contributions listed with ⟨shares, contribute, classic, contract⟩
      rw [charges_eq readable, ← pairs]
      exact ⟨shares, readable, List.forall₂_map_left_iff.mpr contribute, classic, contract⟩

/--
A fresh book, after any calls, and a ledger with an outcome for each transaction. Its fees can be read: each transaction
has exactly one contribution by its operations and the outcome at its place, and the two series are the contributed fees
in the order of the transactions, as integers without bounds. Nothing is ever divided among no operations. The ledger is
entered just if it follows the latest one, and then the newest bucket of each window is its series.
-/
theorem FeeBook.contributions_of_enter [LedgerSink σ] {classic contract : UInt32} {passphrase : String}
    {fresh : FeeBook} (created : FeeBook.empty classic contract passphrase = .ok fresh) (named : passphrase ≠ "")
    (calls : List (ClosedLedger × σ)) (store : σ) {ledger : ClosedLedger}
    (paired : ledger.envelopes.length = ledger.receipts.length) :
    let book := fresh.afterCalls calls
    let call := FeeBook.enter ledger store book
    ∃ fees shares, ledger.fees passphrase = .ok fees ∧
      List.Forall₂ (fun transaction share => ∀ other, Contributes transaction.1 transaction.2 other ↔ other = share)
        (ledger.envelopes.zip ledger.receipts) shares ∧
      fees.classic.map (fun fee => (fee.toNat : Int)) = shares.filterMap Share.classic? ∧
      fees.contract.map (fun fee => (fee.toNat : Int)) = shares.filterMap Share.contract? ∧
      (∀ transaction : LedgerTransaction, transaction.classicFee?.isSome = true →
        0 < transaction.envelope.operations.length) ∧
      (call.2.2 = .ok () ↔ ∀ latest ∈ book.classic.latest?, ledger.sequence = latest + 1) ∧
      (call.2.2 = .ok () →
        call.2.1.classic.ring.newest? = some ⟨ledger.sequence, ledger.closeTime, fees.classic⟩ ∧
        call.2.1.contract.ring.newest? = some ⟨ledger.sequence, ledger.closeTime, fees.contract⟩) := by
  intro book call
  rcases ledger.exists_contributions named paired with ⟨shares, readable, contribute, classicFees, contractFees⟩
  refine ⟨ledger.charges passphrase, shares, readable, ?_, classicFees, contractFees, ?_, ?_⟩
  · apply contribute.imp
    intro transaction share contributes
    exact contributes.iff_eq
  · intro transaction contributed
    apply List.length_pos_of_ne_nil
    intro none
    simp [LedgerTransaction.classicFee?, none] at contributed
  · rcases (covers_of_empty created).afterCalls calls with ⟨ledgers, covers⟩
    have objects : (∃ cause, ledger.objection? passphrase book.classic.latest? = some cause) ↔
        ∃ latest ∈ book.classic.latest?, ledger.sequence ≠ latest + 1 := by
      rw [ClosedLedger.exists_objection_iff]
      simp [named, paired]
    rcases covers.enter_cases ledger store with ⟨nothing, larger, entered, covered⟩ | ⟨cause, objection, refused⟩
    · have entered : call = (store, larger, .ok ()) := entered
      rw [entered]
      constructor
      · apply iff_of_true rfl
        intro latest known
        by_contra apart
        rcases objects.mpr ⟨latest, known, apart⟩ with ⟨cause, objection⟩
        rw [nothing] at objection
        cases objection
      · intro _
        constructor
        · simp [covered.classic.newest?_eq, ClosedLedger.bucket]
        · simp [covered.contract.newest?_eq, ClosedLedger.bucket]
    · have refused : call.2.2 = .error (cause.afterRollback (LedgerSink.rollback store).2) :=
        congrArg (fun outcome => outcome.2.2) refused
      rw [refused]
      constructor
      · apply iff_of_false nofun
        intro next
        rcases objects.mp ⟨cause, objection⟩ with ⟨latest, known, apart⟩
        exact apart (next latest known)
      · exact nofun

/--
A ledger at the ends of the words: resource fees whose sum leaves the signed word above and below, a negative fee, and a
fee that does not divide evenly; and transactions without operations or without resource fees.
-/
def extremeFees : ClosedLedger where
  sequence := 0
  closeTime := 0
  hash := ""
  protocolVersion := 22
  envelopes := [⟨"", [.invokeHostFunction]⟩, ⟨"", [.extendFootprintTtl]⟩, ⟨"", [.payment, .invokeHostFunction, .other]⟩,
    ⟨"", [.payment]⟩, ⟨"", []⟩, ⟨"", [.restoreFootprint]⟩]
  receipts := [⟨9223372036854775807, true, .third (some ⟨.charged 9223372036854775807 9223372036854775807⟩)⟩,
    ⟨1000, true, .fourth (some ⟨.charged (-9223372036854775808) (-1)⟩)⟩, ⟨200, true, .first⟩,
    ⟨-9223372036854775808, false, .second⟩, ⟨300, true, .first⟩, ⟨500, true, .third none⟩]

theorem FeeBook.contributions_extremeFees :
    "network" ≠ "" ∧ extremeFees.envelopes.length = extremeFees.receipts.length ∧
      ∃ fresh, FeeBook.empty 1 1 "network" = .ok fresh ∧
        let call := FeeBook.enter extremeFees (Shelf.ofList []) fresh
        (∃ shares, List.Forall₂ (fun transaction share => Contributes transaction.1 transaction.2 share)
          (extremeFees.envelopes.zip extremeFees.receipts) shares ∧
          shares.filterMap Share.classic? = [66, 0] ∧ shares.filterMap Share.contract? = [0, 1000]) ∧
        call.2.2 = .ok () ∧ call.2.1.classic.ring.newest? = some ⟨0, 0, [66, 0]⟩ ∧
        call.2.1.contract.ring.newest? = some ⟨0, 0, [0, 1000]⟩ := by
  have named : "network" ≠ "" := by decide
  have paired : extremeFees.envelopes.length = extremeFees.receipts.length := by decide
  have found : extremeFees.fees "network" = .ok ⟨[66, 0], [0, 1000]⟩ := by decide +kernel
  rcases covers_empty (by decide : (0 : UInt32) < 1) (by decide : (0 : UInt32) < 1) "network" with
    ⟨fresh, created, covers⟩
  rcases contributions_of_enter created named [] (Shelf.ofList []) paired with
    ⟨fees, shares, readable, contribute, classic, contract, -, accepts, newest⟩
  rw [found] at readable
  cases readable
  have entered := accepts.mpr (by
    intro latest known
    have known : latest ∈ fresh.classic.latest? := known
    rw [covers.classic_latest?] at known
    cases known)
  refine ⟨named, paired, fresh, created, ⟨shares, ?_, classic.symm, contract.symm⟩, entered, newest entered⟩
  apply contribute.imp
  intro transaction share only
  exact (only share).mpr rfl

end LedgerService

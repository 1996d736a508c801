import LedgerService.Proofs.Ingestion.Agreement
import LedgerService.Proofs.Ingestion.Replay
import LedgerService.Proofs.Ledger.Gaps

/-!
# The tail of a store

A replay is asked for the ledgers whose sequences are greater than the newest one less the retention, as integers
(`Replay.tail`). These are the ones from the sequence on at which it starts to read (`Replay.recent_eq_tail`), whatever
gaps there are among the stored ones and however close the newest is to the greatest word. It enters them up to the
first one to which there is an objection (`FeeBook.Covers.appendAll_cases`), so it succeeds exactly if they are
consecutive and complete (`Replay.replays_stored_tail`).
-/

namespace LedgerService

open ClosedLedger (since ends? Ascending)

namespace ClosedLedger

/-- The ledger has an outcome for each of its transactions. -/
def Complete (ledger : ClosedLedger) : Prop := ledger.receipts.length = ledger.envelopes.length

theorem complete_of_readable {ledger : ClosedLedger} {passphrase : String}
    (readable : ledger.fees passphrase = .ok (ledger.charges passphrase)) : ledger.Complete := by
  rcases ledger.fees_cases passphrase with ⟨-, paired, -⟩ | ⟨cause, unreadable, -⟩
  · exact paired.symm
  · rw [unreadable] at readable
    cases readable

end ClosedLedger

theorem FeeBook.afterCalls_of_appendAll {σ : Type} [LedgerSink σ] {ledgers : List ClosedLedger} {book larger : FeeBook}
    (accepted : book.appendAll ledgers = (larger, .ok ())) (store : σ) :
    book.afterCalls (ledgers.map fun ledger => (ledger, store)) = larger := by
  induction ledgers generalizing book with
  | nil =>
      cases accepted
      rfl
  | cons ledger others ih =>
      rw [FeeBook.appendAll] at accepted
      rw [List.map_cons, FeeBook.afterCalls, List.foldl_cons, FeeBook.enter]
      generalize book.append ledger = appended at accepted ⊢
      rcases appended with ⟨more, failure | _⟩
      · cases accepted
      · exact ih accepted

namespace Replay

/-- The ledgers whose sequences are greater than the newest one less the retention. -/
def tail (retention : UInt32) (stored : List ClosedLedger) : List ClosedLedger :=
  stored.filter fun ledger => stored.getLast?.all fun newest =>
    (newest.sequence.toNat : Int) - retention.toNat < ledger.sequence.toNat

section

variable {stored : List ClosedLedger} {retention : UInt32}

theorem recent_eq_tail (ascending : Ascending stored) (positive : 0 < retention) :
    recent retention stored = tail retention stored := by
  rw [recent, tail]
  cases ends : ends? stored with
  | none => rw [ClosedLedger.ends_eq_none ends, List.filter_nil]
  | some range =>
      have least := ascending.first_le ends
      rcases ClosedLedger.ends_eq_some ends with ⟨first, newest, -, last, rfl⟩
      rw [last]
      apply List.filter_congr
      intro ledger member
      have start := SequenceRange.toNat_first_tail ⟨first.sequence, newest.sequence⟩ retention
      have after := UInt32.le_iff_toNat_le.mp (least ledger member)
      have counted := UInt32.lt_iff_toNat_lt.mp positive
      rw [Option.all_some, decide_eq_decide, UInt32.le_iff_toNat_le, start]
      rw [UInt32.toNat_zero] at counted
      dsimp only at after ⊢
      omega

theorem newest_mem_recent (ascending : Ascending stored) (positive : 0 < retention) {newest : ClosedLedger}
    (last : stored.getLast? = some newest) : newest ∈ recent retention stored := by
  have counted := UInt32.lt_iff_toNat_lt.mp positive
  rw [UInt32.toNat_zero] at counted
  rw [recent_eq_tail ascending positive, tail, List.mem_filter, last, Option.all_some, decide_eq_true_eq]
  exact ⟨List.mem_of_getLast? last, by omega⟩

theorem length_tail_le (ascending : Ascending stored) (positive : 0 < retention) :
    (tail retention stored).length ≤ retention.toNat := by
  rw [← recent_eq_tail ascending positive, recent]
  cases ends : ends? stored with
  | none => exact Nat.zero_le _
  | some range =>
      have start := SequenceRange.toNat_first_tail range retention
      have fewer := ascending.length_since_le (range.tail retention).first (ascending.bounds ends).2.1
      have counted := UInt32.lt_iff_toNat_lt.mp positive
      rw [UInt32.toNat_zero] at counted
      dsimp only
      omega

end

/--
A replay into a new book, when no operation of the store fails. It comes to its end, no sum on the way outgrows a word,
and its outcome does not depend on the size of the batches. It succeeds exactly if the ledgers of the tail are
consecutive and complete, and then has entered all of them and gives their number. Otherwise it fails with the objection
to the first ledger that is out of order, and has entered the ledgers before it. The book is the one to which these
ledgers were entered one after the other, and both windows retain the last of them.
-/
theorem replays_stored_tail {store : Rehearsal LedgerSession} (faultless : store.faults = .none)
    {stored : List ClosedLedger} (stores : store.store.table.Stores stored) {retention : UInt32}
    (positive : 0 < retention) {classic contract : UInt32} {passphrase : String} (named : passphrase ≠ "")
    {fresh : FeeBook} (created : FeeBook.empty classic contract passphrase = .ok fresh) {size : UInt32}
    (sized : 0 < size) :
    let replay := runBy size retention store fresh
    runBy? size retention store fresh = some replay ∧ replay.2 = (run retention store fresh).2 ∧
    ((∃ count, replay.2.2 = .ok count) ↔
      (tail retention stored).IsChain (fun earlier later => later.Follows earlier) ∧
        ∀ ledger ∈ tail retention stored, ledger.Complete) ∧
    ∃ entered rest, tail retention stored = entered ++ rest ∧
      entered.IsChain (fun earlier later => later.Follows earlier) ∧ (∀ ledger ∈ entered, ledger.Complete) ∧
      replay.2.1 = fresh.afterCalls (entered.map fun ledger => (ledger, store)) ∧
      replay.2.1.classic.RetainsLast classic.toNat LedgerFees.classic passphrase entered ∧
      replay.2.1.contract.RetainsLast contract.toNat LedgerFees.contract passphrase entered ∧
      ((rest = [] ∧ ∃ count, replay.2.2 = .ok count ∧ count.toNat = (tail retention stored).length) ∨
        ∃ offender others cause, rest = offender :: others ∧
          offender.objection? passphrase (entered.getLast?.map ClosedLedger.sequence) = some cause ∧
          replay.2.2 = .error (.fees cause)) := by
  intro replay
  have covers := FeeBook.covers_of_empty created
  have ascending : Ascending (tail retention stored) := stores.ascending.filter _
  have same := recent_eq_tail stores.ascending positive
  have short : (tail retention stored).length < UInt32.size :=
    Nat.lt_of_le_of_lt (length_tail_le stores.ascending positive) retention.toNat_lt
  rcases runBy?_of_stores faultless stores sized retention fresh with ⟨after, -, -, checked⟩
  rcases runBy?_of_stores faultless stores (by decide : 0 < batchSize) retention fresh with ⟨other, -, -, usual⟩
  have reached : replay = _ := runBy?_sound checked
  have usually : run retention store fresh = _ := runBy?_sound usual
  rw [same] at checked reached usually
  refine ⟨by rw [checked, reached], by rw [reached, usually], ?_⟩
  rw [reached, outcome]
  dsimp only
  rcases covers.appendAll_cases (tail retention stored) with
    ⟨larger, entered, covered⟩ | ⟨front, offender, rest, larger, cause, parts, entered, covered, objection, refused⟩
  · rw [List.nil_append] at covered
    have chain := ascending.chain_iff.mpr covered.consecutive
    have complete := fun ledger member => ClosedLedger.complete_of_readable (covered.readable ledger member)
    rw [entered]
    refine ⟨⟨fun _ => ⟨chain, complete⟩, fun _ => ⟨_, rfl⟩⟩, tail retention stored, [], (List.append_nil _).symm, chain,
      complete, (FeeBook.afterCalls_of_appendAll entered store).symm, covered.classic.retainsLast,
      covered.contract.retainsLast, .inl ⟨rfl, _, rfl, UInt32.toNat_ofNat_of_lt' short⟩⟩
  · rw [List.nil_append] at covered objection
    have chain : front.IsChain fun earlier later => later.Follows earlier := by
      rw [parts] at ascending
      have before : Ascending front := ascending.sublist (List.sublist_append_left front _)
      exact before.chain_iff.mpr covered.consecutive
    have complete := fun ledger member => ClosedLedger.complete_of_readable (covered.readable ledger member)
    rw [refused]
    refine ⟨⟨?_, ?_⟩, front, offender :: rest, parts, chain, complete,
      (FeeBook.afterCalls_of_appendAll entered store).symm, covered.classic.retainsLast, covered.contract.retainsLast,
      .inr ⟨offender, rest, cause, rfl, objection, rfl⟩⟩
    · rintro ⟨count, done⟩
      cases done
    · rintro ⟨whole, all⟩
      rw [parts] at whole all
      rcases ClosedLedger.exists_objection_iff.mp ⟨cause, objection⟩ with blank | mismatch | ⟨latest, found, apart⟩
      · exact absurd blank named
      · exact absurd (all offender (by simp)).symm mismatch
      · rcases Option.map_eq_some_iff.mp found with ⟨newest, last, rfl⟩
        exact absurd ((List.isChain_append.mp whole).2.2 newest last offender rfl).precedes apart

open Intake (payments)

/-- The last three sequences of all, and one long before them. -/
def lastLedgers : List ClosedLedger :=
  [payments 7 [50], payments 4294967293 [100], payments 4294967294 [], payments 4294967295 [200, 150]]

theorem replays_stored_tail_lastLedgers :
    ∃ fresh, FeeBook.empty 2 1 "network" = .ok fresh ∧
      let store : Rehearsal LedgerSession := .start (.on ⟨lastLedgers.map ClosedLedger.row, true⟩)
      ∃ count, runBy? 2 3 store fresh = some (runBy 2 3 store fresh) ∧ (runBy 2 3 store fresh).2.2 = .ok count ∧
        count.toNat = 3 ∧ (runBy 2 3 store fresh).2.1.classic.RetainsLast 2 LedgerFees.classic "network"
          [payments 4294967293 [100], payments 4294967294 [], payments 4294967295 [200, 150]] := by
  rcases FeeBook.covers_empty (by decide : (0 : UInt32) < 2) (by decide : (0 : UInt32) < 1) "network" with
    ⟨fresh, created, -⟩
  have ascending : Ascending lastLedgers := by
    unfold Ascending
    decide
  have tail : tail 3 lastLedgers =
      [payments 4294967293 [100], payments 4294967294 [], payments 4294967295 [200, 150]] := by decide
  refine ⟨fresh, created, ?_⟩
  intro store
  have stores : store.store.table.Stores lastLedgers := ⟨rfl, rfl, ascending⟩
  rcases replays_stored_tail rfl stores (by decide : 0 < (3 : UInt32)) (by decide : "network" ≠ "") created
    (by decide : 0 < (2 : UInt32)) with ⟨ends, -, succeeds, entered, rest, parts, -, -, -, classic, -, outcome⟩
  have whole : ∃ count, (runBy 2 3 store fresh).2.2 = .ok count := by
    apply succeeds.mpr
    rw [tail]
    simp [ClosedLedger.Follows, ClosedLedger.Complete, payments]
  rcases outcome with ⟨rfl, count, done, counted⟩ | ⟨-, -, cause, -, -, refused⟩
  · rw [List.append_nil, tail] at parts
    rw [← parts] at classic
    rw [tail] at counted
    exact ⟨count, ends, done, counted, classic⟩
  · rcases whole with ⟨count, done⟩
    rw [refused] at done
    cases done

end Replay

end LedgerService

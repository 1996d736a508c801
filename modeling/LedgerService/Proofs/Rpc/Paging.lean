import LedgerService.Proofs.Store.Contents
import LedgerService.Proofs.Traffic.Settling
import LedgerService.Rpc.Pages
import Mathlib.Data.List.Forall2

/-!
# Pages of a store

What a client asks for and what it is answered, when the store gives what it holds. A cursor names the sequence that it
was written for (`cursorSequence_toString`), the parameters of a client are read as the request that they stand for
(`Paging.params_opening`, `Paging.params_following`), and the answer is the page at the bounds that the request chooses
(`settle_answerLedgers`). What a client reads from it are the stored ledgers themselves, each beside its own sequence,
hash and close time (`LedgersResponse.showsPage_ofPage`).
-/

namespace LedgerService

namespace Text

theorem le_ofDigitChars (digits : List Char) (value : Nat) : value ≤ Nat.ofDigitChars 10 digits value := by
  induction digits generalizing value with
  | nil => exact Nat.le_refl _
  | cons digit others ih =>
      rw [Nat.ofDigitChars_cons]
      exact Nat.le_trans (by omega) (ih _)

theorem foldlM_addDigit {bound : Nat} {digits : List Char} (decimal : ∀ character ∈ digits, character.isDigit = true)
    {value : Nat} (below : Nat.ofDigitChars 10 digits value < bound) :
    digits.foldlM (addDigit bound) value = .ok (Nat.ofDigitChars 10 digits value) := by
  induction digits generalizing value with
  | nil => rfl
  | cons digit others ih =>
      rcases List.forall_mem_cons.mp decimal with ⟨first, rest⟩
      rw [Nat.ofDigitChars_cons, Nat.mul_comm] at below ⊢
      have small := Nat.lt_of_le_of_lt (le_ofDigitChars others _) below
      have added : addDigit bound value digit = .ok (value * 10 + (digit.toNat - '0'.toNat)) := by
        rw [addDigit, first]
        exact if_pos small
      rw [List.foldlM_cons, added]
      exact ih rest below

theorem numeral_toDigits {bound number : Nat} (below : number < bound) :
    numeral bound (String.ofList (Nat.toDigits 10 number)) = .ok number := by
  have decimal : ∀ character ∈ Nat.toDigits 10 number, character.isDigit = true :=
    fun character => Nat.isDigit_of_mem_toDigits (by decide) (by decide)
  have value : Nat.ofDigitChars 10 (Nat.toDigits 10 number) 0 = number := Nat.ofDigitChars_ten_toDigits
  have read : (Nat.toDigits 10 number).foldlM (addDigit bound) 0 = .ok number := by
    rw [← value] at below
    exact (foldlM_addDigit decimal below).trans (congrArg Except.ok value)
  rw [numeral, String.toList_ofList]
  split
  · rename_i none
    exact absurd none Nat.toDigits_ne_nil
  · rename_i plus
    rw [plus] at decimal
    exact absurd (decimal '+' (List.mem_singleton_self _)) (by decide)
  · rename_i others plus
    rw [plus] at decimal
    exact absurd (decimal '+' List.mem_cons_self) (by decide)
  · exact read

end Text

theorem cursorSequence_toString (sequence : UInt32) : cursorSequence (toString sequence) = .ok sequence := by
  have read : Text.numeral UInt32.size (toString sequence) = .ok sequence.toNat :=
    Text.numeral_toDigits sequence.toNat_lt
  rw [cursorSequence, read]
  exact congrArg Except.ok (UInt32.ofNat_toNat)

theorem predecessor_succ {sequence : UInt32} (below : sequence ≠ 4294967295) :
    predecessor (sequence + 1) = sequence := by
  have different : sequence + 1 ≠ 0 := by
    intro zero
    have next := ClosedLedger.toNat_succ below
    rw [zero, UInt32.toNat_zero] at next
    omega
  rw [predecessor, if_neg different, UInt32.add_sub_cancel]

namespace Paging

/-- The member that asks for a number of ledgers, unless the usual number will do. -/
def limitMember : Option UInt32 → List (String × Json)
  | none => []
  | some limit => [("limit", .integer limit.toNat)]

/-- The parameters that ask for the first page. -/
def opening (start : UInt32) : Option UInt32 → Json
  | none => .object [("startLedger", .integer start.toNat)]
  | some limit => .object [("startLedger", .integer start.toNat), ("pagination", .object (limitMember (some limit)))]

/-- The parameters that ask for the page after a cursor. -/
def following (cursor : String) (limit : Option UInt32) : Json :=
  .object [("pagination", .object (("cursor", .text cursor) :: limitMember limit))]

theorem params_of_describes {members : List (String × Json)} {request : LedgersRequest}
    (described : LedgersRequest.schema.Describes (.object members) request) :
    LedgersRequest.schema.params (.object members) = .ok request := by
  have decoded := Schema.decode_of_describes LedgersRequest.lossless_schema described
  simp only [Schema.params, decoded]

theorem params_opening (start : UInt32) (limit : Option UInt32) :
    LedgersRequest.schema.params (opening start limit) = .ok ⟨start, limit.map (⟨none, ·⟩)⟩ := by
  cases limit with
  | none => exact params_of_describes ⟨_, rfl, .inr ⟨_, rfl, rfl⟩, .inl ⟨rfl, rfl⟩, rfl⟩
  | some limit =>
      have pagination : Pagination.schema.Describes (.object (limitMember (some limit))) ⟨none, limit⟩ :=
        ⟨_, rfl, .inl ⟨rfl, rfl⟩, .inr ⟨_, rfl, rfl⟩, rfl⟩
      exact params_of_describes ⟨_, rfl, .inr ⟨_, rfl, rfl⟩, .inr ⟨_, rfl, nofun, pagination⟩, rfl⟩

theorem params_following (cursor : String) (limit : Option UInt32) :
    LedgersRequest.schema.params (following cursor limit) = .ok ⟨0, some ⟨some cursor, limit.getD 0⟩⟩ := by
  have pagination : Pagination.schema.Describes (.object (("cursor", .text cursor) :: limitMember limit))
      ⟨some cursor, limit.getD 0⟩ := by
    cases limit with
    | none => exact ⟨_, rfl, .inr ⟨_, rfl, nofun, rfl⟩, .inl ⟨rfl, rfl⟩, rfl⟩
    | some limit => exact ⟨_, rfl, .inr ⟨_, rfl, nofun, rfl⟩, .inr ⟨_, rfl, rfl⟩, rfl⟩
  exact params_of_describes ⟨_, rfl, .inl ⟨rfl, rfl⟩, .inr ⟨_, rfl, nofun, pagination⟩, rfl⟩

end Paging

namespace PageLimits

/-- A client may ask for so many ledgers; if it asks for no number, the usual one counts. -/
def Allows (limits : PageLimits) : Option UInt32 → Prop
  | none => 0 < limits.usual
  | some limit => 0 < limit ∧ limit ≤ limits.greatest

variable {limits : PageLimits} {limit : Option UInt32}

theorem Allows.chosen (allowed : limits.Allows limit) :
    ∃ size, limits.chosen (limit.getD 0) = .ok size ∧ 0 < size.toNat := by
  cases limit with
  | none => exact ⟨limits.usual, if_pos rfl, UInt32.lt_iff_toNat_lt.mp allowed⟩
  | some limit =>
      rcases allowed with ⟨positive, bounded⟩
      refine ⟨limit, ?_, UInt32.lt_iff_toNat_lt.mp positive⟩
      rw [Option.getD_some, PageLimits.chosen, if_neg (Ne.symm (UInt32.ne_of_lt positive)),
        if_neg (UInt32.not_lt.mpr bounded)]

end PageLimits

namespace Paging

variable {limits : PageLimits} {limit : Option UInt32}

theorem page_eq {request : LedgersRequest} {range : SequenceRange} {pagination : Pagination} {start size : UInt32}
    (given : request.pagination.getD ⟨none, 0⟩ = pagination) (chosen : limits.chosen pagination.limit = .ok size)
    (found : request.start pagination.cursor range = .ok start) : request.page limits range = .ok ⟨start, size⟩ := by
  simp only [LedgersRequest.page, given, chosen, found]
  rfl

theorem page_opening (allowed : limits.Allows limit) {start : UInt32} {range : SequenceRange}
    (after : range.first ≤ start) (before : start ≤ range.last) :
    ∃ size, (⟨start, limit.map (⟨none, ·⟩)⟩ : LedgersRequest).page limits range = .ok ⟨start, size⟩ ∧
      0 < size.toNat := by
  rcases allowed.chosen with ⟨size, chosen, positive⟩
  have given : (limit.map (⟨none, ·⟩ : UInt32 → Pagination)).getD ⟨none, 0⟩ = ⟨none, limit.getD 0⟩ := by
    cases limit <;> rfl
  refine ⟨size, page_eq given chosen ?_, positive⟩
  simp [LedgersRequest.start, UInt32.not_lt.mpr after, UInt32.not_lt.mpr before]

theorem page_following (allowed : limits.Allows limit) {last : UInt32} (below : last ≠ 4294967295)
    (range : SequenceRange) :
    ∃ size, (⟨0, some ⟨some (toString last), limit.getD 0⟩⟩ : LedgersRequest).page limits range = .ok ⟨last + 1, size⟩ ∧
      0 < size.toNat := by
  rcases allowed.chosen with ⟨size, chosen, positive⟩
  refine ⟨size, page_eq rfl chosen ?_, positive⟩
  simp [LedgersRequest.start, cursorSequence_toString, successor, below]

end Paging

/-- Accesses to the store may be late, but they do not fail. -/
def Surroundings.Smooth {σ : Type} (surroundings : Surroundings σ) : Prop :=
  ∀ stall ∈ surroundings.stalls, stall.breakdown = none ∧ stall.failure = none

namespace Surroundings

variable {σ : Type} {surroundings : Surroundings σ}

theorem Smooth.withoutStall (smooth : surroundings.Smooth) : surroundings.withoutStall.Smooth :=
  fun stall member => smooth stall (List.mem_of_mem_tail member)

theorem Smooth.nextStall (smooth : surroundings.Smooth) :
    surroundings.nextStall.breakdown = none ∧ surroundings.nextStall.failure = none := by
  rw [Surroundings.nextStall]
  cases found : surroundings.stalls.head? with
  | none => exact ⟨rfl, rfl⟩
  | some stall => exact smooth stall (List.mem_of_head? found)

theorem settle_read {α : Type} (smooth : surroundings.Smooth) {query : σ → Except Failure α} {value : α}
    (found : query surroundings.store = .ok value) (next : α → Work (Surroundings σ)) :
    (read query next).settle surroundings = (next value).settle surroundings.withoutStall := by
  rcases smooth.nextStall with ⟨breakdown, failure⟩
  have same : query surroundings.withoutStall.store = .ok value := found
  rw [read, Work.settle, Work.settle_pauseFor, breakdown, failure]
  dsimp only
  rw [Work.look, Work.settle, same]
  rfl

end Surroundings

/-- An entry carries a ledger, and names its sequence, its hash and, in decimal, its close time. -/
structure LedgerEntry.Shows (entry : LedgerEntry) (ledger : ClosedLedger) : Prop where
  carried : entry.ledger = ledger
  sequence : entry.sequence = ledger.sequence
  hash : entry.hash = ledger.hash
  closeTime : entry.closeTime = toString ledger.closeTime

theorem ClosedLedger.shown_entries (ledgers : List ClosedLedger) :
    List.Forall₂ LedgerEntry.Shows (ledgers.map entry) ledgers :=
  List.forall₂_map_left_iff.mpr (List.forall₂_same.mpr fun _ _ => ⟨rfl, rfl, rfl, rfl⟩)

/-- A client reads a value as the ledgers of a page in their order, with a cursor in decimal. -/
def Json.ShowsPage (json : Json) (page : List ClosedLedger) (cursor : UInt32) : Prop :=
  ∃ response, LedgersResponse.schema.decode json = .ok response ∧
    List.Forall₂ LedgerEntry.Shows response.ledgers page ∧ response.cursor = toString cursor

namespace LedgersResponse

/-- The answer with a page of a store whose first and last ledgers are known. -/
def ofPage (oldest newest : ClosedLedger) (page : List ClosedLedger) (cursor : UInt32) : LedgersResponse :=
  { ledgers := page.map ClosedLedger.entry
    latestLedger := newest.sequence
    latestCloseTime := newest.closeTime
    oldestLedger := oldest.sequence
    oldestCloseTime := oldest.closeTime
    cursor := toString cursor }

theorem showsPage_ofPage (oldest newest : ClosedLedger) (page : List ClosedLedger) (cursor : UInt32) :
    (schema.encode (ofPage oldest newest page cursor)).ShowsPage page cursor :=
  ⟨_, Schema.decode_encode lossless_schema _, ClosedLedger.shown_entries page, rfl⟩

end LedgersResponse

namespace PageBounds

/-- The ledgers of a page with the given bounds. -/
def ledgers (bounds : PageBounds) (stored : List ClosedLedger) : List ClosedLedger :=
  (ClosedLedger.since bounds.start stored).take bounds.limit.toNat

/-- A page with room is empty only if no ledgers are left, and otherwise its cursor names its last ledger. -/
theorem ledgers_cases (bounds : PageBounds) (stored : List ClosedLedger) (positive : 0 < bounds.limit.toNat) :
    (bounds.ledgers stored = [] ∧ ClosedLedger.since bounds.start stored = []) ∨
    ∃ last rest, (bounds.ledgers stored).getLast? = some last ∧
      ClosedLedger.since bounds.start stored = bounds.ledgers stored ++ rest ∧
      bounds.cursor (bounds.ledgers stored) = last.sequence ∧ last ∈ stored ∧ bounds.start ≤ last.sequence := by
  have parts : ClosedLedger.since bounds.start stored =
      bounds.ledgers stored ++ (ClosedLedger.since bounds.start stored).drop bounds.limit.toNat :=
    (List.take_append_drop _ _).symm
  cases final : (bounds.ledgers stored).getLast? with
  | none =>
      have empty := List.getLast?_eq_none_iff.mp final
      rcases List.take_eq_nil_iff.mp empty with roomless | nothing
      · omega
      · exact .inl ⟨empty, nothing⟩
  | some last =>
      right
      have inside : last ∈ ClosedLedger.since bounds.start stored := by
        rw [parts]
        exact List.mem_append_left _ (List.mem_of_getLast? final)
      rcases ClosedLedger.since_mem.mp inside with ⟨member, after⟩
      refine ⟨last, _, rfl, parts, ?_, member, after⟩
      rw [cursor, final]

end PageBounds

theorem range_of_ends {session : LedgerSession} {stored : List ClosedLedger} (stores : session.table.Stores stored)
    {oldest newest : ClosedLedger} (first : stored.head? = some oldest) (last : stored.getLast? = some newest) :
    LedgerSource.range session = .ok (some ⟨oldest.sequence, newest.sequence⟩) := by
  refine stores.range.trans ?_
  rw [ClosedLedger.ends?, first, last]

/-- A store that gives what it holds is answered for with the page that the request chooses. -/
theorem settle_answerLedgers {surroundings : Surroundings LedgerSession} (smooth : surroundings.Smooth)
    {stored : List ClosedLedger} (stores : surroundings.store.table.Stores stored) {oldest newest : ClosedLedger}
    (first : stored.head? = some oldest) (last : stored.getLast? = some newest) {limits : PageLimits} {params : Json}
    {request : LedgersRequest} {bounds : PageBounds} (asked : LedgersRequest.schema.params params = .ok request)
    (chosen : request.page limits ⟨oldest.sequence, newest.sequence⟩ = .ok bounds) :
    (answerLedgers limits params).settle surroundings =
      .answered (.ok (LedgersResponse.schema.encode
        (.ofPage oldest newest (bounds.ledgers stored) (bounds.cursor (bounds.ledgers stored))))) := by
  have range := range_of_ends stores first last
  have page : LedgerSource.ledgers surroundings.store bounds.start bounds.limit = .ok (bounds.ledgers stored) :=
    stores.ledgers_eq bounds.start bounds.limit
  have latest : LedgerSource.latest surroundings.store = .ok (some newest.summary) := by
    refine stores.latest.trans ?_
    rw [last, Option.map_some]
  have earliest : LedgerSource.ledgers surroundings.store oldest.sequence 1 = .ok [oldest] := by
    refine (stores.ledgers_eq oldest.sequence 1).trans ?_
    rw [stores.ascending.since_of_head first, UInt32.toNat_one, List.take_one, first]
    rfl
  rw [answerLedgers, asked]
  dsimp only
  rw [Surroundings.readRange, Surroundings.settle_read smooth range, Surroundings.present, chosen]
  dsimp only
  rw [Surroundings.readLedgers, Surroundings.settle_read smooth.withoutStall page, Surroundings.readLatest,
    Surroundings.settle_read smooth.withoutStall.withoutStall latest, Surroundings.present, Surroundings.readLedgers,
    Surroundings.settle_read smooth.withoutStall.withoutStall.withoutStall earliest]
  rfl

theorem settle_answerLedgers_of_error {surroundings : Surroundings LedgerSession} (smooth : surroundings.Smooth)
    {stored : List ClosedLedger} (stores : surroundings.store.table.Stores stored) {oldest newest : ClosedLedger}
    (first : stored.head? = some oldest) (last : stored.getLast? = some newest) {limits : PageLimits} {params : Json}
    {request : LedgersRequest} {error : RequestError} (asked : LedgersRequest.schema.params params = .ok request)
    (refused : request.page limits ⟨oldest.sequence, newest.sequence⟩ = .error error) :
    (answerLedgers limits params).settle surroundings = .answered (.error error) := by
  rw [answerLedgers, asked]
  dsimp only
  rw [Surroundings.readRange, Surroundings.settle_read smooth (range_of_ends stores first last), Surroundings.present,
    refused]
  rfl

end LedgerService

import LedgerService.Proofs.Ledger.Gaps

/-!
# Spans of ascending sequences

The ledgers between two sequences, both included. A page that is read from a sequence on is a span
(`ClosedLedger.Ascending.span_eq`), the page after it extends the span (`ClosedLedger.Ascending.span_next`), and ledgers
that are added at the end are in no span before them (`ClosedLedger.Ascending.span_append`). A span of consecutive
ledgers has every sequence in it exactly once (`ClosedLedger.Consecutive.sequences_span`).
-/

namespace LedgerService.ClosedLedger

/-- The ledgers from a sequence on up to another. -/
def span (start last : UInt32) (ledgers : List ClosedLedger) : List ClosedLedger :=
  ledgers.filter fun ledger => start ≤ ledger.sequence ∧ ledger.sequence ≤ last

section

variable {ledgers : List ClosedLedger} {start : UInt32}

theorem span_eq_filter_since (start last : UInt32) (ledgers : List ClosedLedger) :
    span start last ledgers = (since start ledgers).filter fun ledger => ledger.sequence ≤ last := by
  rw [span, since, List.filter_filter]
  apply List.filter_congr
  intro ledger _
  rw [Bool.decide_and, Bool.and_comm]

theorem le_of_since_succ_eq_nil {sequence : UInt32} (below : sequence ≠ 4294967295)
    (none : since (sequence + 1) ledgers = []) : ∀ ledger ∈ ledgers, ledger.sequence ≤ sequence := by
  intro ledger member
  apply UInt32.not_lt.mp
  intro greater
  have later : ledger ∈ since (sequence + 1) ledgers := by
    rw [since_mem, UInt32.le_iff_toNat_le, toNat_succ below]
    exact ⟨member, UInt32.lt_iff_toNat_lt.mp greater⟩
  rw [none] at later
  cases later

namespace Ascending

/-- Of the ledgers from a sequence on, the first ones are a span. -/
theorem span_eq (ascending : Ascending ledgers) {page rest : List ClosedLedger} {newest : ClosedLedger}
    (parts : since start ledgers = page ++ rest) (final : page.getLast? = some newest) :
    span start newest.sequence ledgers = page := by
  have ordered : Ascending (page ++ rest) := by
    rw [← parts]
    exact ascending.filter _
  rcases List.pairwise_append.mp ordered with ⟨before, -, across⟩
  have within : ∀ ledger ∈ page, decide (ledger.sequence ≤ newest.sequence) = true :=
    fun ledger member => decide_eq_true (le_last before final ledger member)
  have beyond : ∀ ledger ∈ rest, ¬decide (ledger.sequence ≤ newest.sequence) = true := by
    intro ledger member inside
    have greater := across newest (List.mem_of_getLast? final) ledger member
    exact UInt32.not_lt.mpr (of_decide_eq_true inside) greater
  rw [span_eq_filter_since, parts, List.filter_append, List.filter_eq_self.mpr within,
    List.filter_eq_nil_iff.mpr beyond, List.append_nil]

/-- The ledgers from a sequence on are those up to one of them and those after it. -/
theorem since_eq_span_append (ascending : Ascending ledgers) {last : ClosedLedger} (member : last ∈ ledgers)
    (inside : start ≤ last.sequence) (below : last.sequence ≠ 4294967295) :
    since start ledgers = span start last.sequence ledgers ++ since (last.sequence + 1) ledgers := by
  rcases List.mem_iff_append.mp (since_mem.mpr ⟨member, inside⟩) with ⟨front, rest, parts⟩
  have joined : since start ledgers = (front ++ [last]) ++ rest := by
    rw [parts, List.append_assoc, List.singleton_append]
  rw [ascending.span_eq joined List.getLast?_concat, ascending.since_next parts below, joined]

/-- A page read after a span extends the span. -/
theorem span_next (ascending : Ascending ledgers) {last newest : ClosedLedger} {page rest : List ClosedLedger}
    (member : last ∈ ledgers) (inside : start ≤ last.sequence) (below : last.sequence ≠ 4294967295)
    (parts : since (last.sequence + 1) ledgers = page ++ rest) (final : page.getLast? = some newest) :
    span start newest.sequence ledgers = span start last.sequence ledgers ++ page := by
  have joined : since start ledgers = span start last.sequence ledgers ++ page ++ rest := by
    rw [ascending.since_eq_span_append member inside below, parts, List.append_assoc]
  apply ascending.span_eq joined
  rw [List.getLast?_append, final, Option.some_or]

/-- Ledgers that follow do not belong to a span before them. -/
theorem span_append {earlier later : List ClosedLedger} (ascending : Ascending (earlier ++ later)) {last : ClosedLedger}
    (member : last ∈ earlier) : span start last.sequence (earlier ++ later) = span start last.sequence earlier := by
  rcases List.pairwise_append.mp ascending with ⟨-, -, across⟩
  have beyond : ∀ ledger ∈ later, ¬decide (start ≤ ledger.sequence ∧ ledger.sequence ≤ last.sequence) = true := by
    intro ledger after inside
    exact UInt32.not_lt.mpr (of_decide_eq_true inside).2 (across last member ledger after)
  rw [span, List.filter_append, List.filter_eq_nil_iff.mpr beyond, List.append_nil, span]

end Ascending

namespace Consecutive

theorem of_append_left {front back : List ClosedLedger} (consecutive : Consecutive (front ++ back)) :
    Consecutive front := by
  have ascending : Ascending front := consecutive.ascending.sublist (List.sublist_append_left front back)
  exact ascending.consecutive consecutive.chain.left_of_append

/-- The sequences of consecutive ledgers are consecutive numbers. -/
theorem sequences {first : ClosedLedger} {others : List ClosedLedger} (consecutive : Consecutive (first :: others)) :
    (first :: others).map (fun ledger => ledger.sequence.toNat) =
      List.range' first.sequence.toNat (others.length + 1) := by
  induction others generalizing first with
  | nil => rfl
  | cons second more ih =>
      have rest : Consecutive (second :: more) :=
        of_append_right (show Consecutive ([first] ++ second :: more) from consecutive)
      have unwrapped := consecutive.unwrapped first (by rw [List.dropLast_cons_cons]; exact List.mem_cons_self)
      have next : second.sequence = first.sequence + 1 := (List.isChain_cons_cons.mp consecutive.chain).1
      rw [List.map_cons, ih rest, next, toNat_succ unwrapped, List.length_cons, ← List.range'_succ]

/-- A span between two of the ledgers has every sequence between theirs exactly once, in order. -/
theorem sequences_span (consecutive : Consecutive ledgers) {first last : ClosedLedger} (firstMember : first ∈ ledgers)
    (lastMember : last ∈ ledgers) (ordered : first.sequence ≤ last.sequence) :
    (span first.sequence last.sequence ledgers).map (fun ledger => ledger.sequence.toNat) =
      List.range' first.sequence.toNat (last.sequence.toNat + 1 - first.sequence.toNat) := by
  rcases List.mem_iff_append.mp firstMember with ⟨before, after, whole⟩
  have own : since first.sequence ledgers = first :: after := by
    rw [whole]
    exact (whole ▸ consecutive).ascending.since_own
  rcases List.mem_iff_append.mp (since_mem.mpr ⟨lastMember, ordered⟩) with ⟨front, rest, parts⟩
  have joined : since first.sequence ledgers = (front ++ [last]) ++ rest := by
    rw [parts, List.append_assoc, List.singleton_append]
  rw [consecutive.ascending.span_eq joined List.getLast?_concat]
  have inner : Consecutive ((front ++ [last]) ++ rest) := by
    rw [← joined, own]
    rw [whole] at consecutive
    exact consecutive.of_append_right
  have page := inner.of_append_left
  rcases kept : front ++ [last] with _ | ⟨head, others⟩
  · simp at kept
  · have same : head = first := by
      rw [own, kept, List.cons_append] at joined
      exact (List.cons.inj joined).1.symm
    rw [kept, same] at page
    have newest := page.toNat_last last (by rw [← same, ← kept]; exact List.getLast?_concat)
    rw [same, page.sequences]
    congr 1
    omega

end Consecutive

end

end LedgerService.ClosedLedger

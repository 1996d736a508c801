import LedgerService.Proofs.Ledger.Order

/-!
# Gaps in ascending sequences

Of consecutive ledgers some are accepted and the others lost. From a sequence on, the accepted ones are consecutive
exactly if their range has no gap, and exactly if no lost one lies between two of them: `ClosedLedger.chain_of_complete`
closes the circle from `Consecutive.gapFree` over `GapFree.complete`.
-/

namespace LedgerService.ClosedLedger

/-- Every sequence in the range of the ledgers is that of one of them. -/
def GapFree (ledgers : List ClosedLedger) : Prop :=
  ∀ range ∈ ends? ledgers, ∀ sequence, range.first ≤ sequence → sequence ≤ range.last →
    ∃ ledger ∈ ledgers, ledger.sequence = sequence

/-- The later ledger has the next sequence, as a number. -/
def Follows (later earlier : ClosedLedger) : Prop := later.sequence.toNat = earlier.sequence.toNat + 1

/-- One of the ledgers entered, but not accepted, lies between the ends of those given. -/
def Missing (entered accepted ledgers : List ClosedLedger) : Prop :=
  ∃ lost ∈ entered, lost ∉ accepted ∧
    ∃ range ∈ ends? ledgers, range.first < lost.sequence ∧ lost.sequence < range.last

section

variable {ledgers : List ClosedLedger}

theorem Ascending.first_le (ascending : Ascending ledgers) {range : SequenceRange} (ends : ends? ledgers = some range) :
    ∀ ledger ∈ ledgers, range.first ≤ ledger.sequence := by
  rcases ends_eq_some ends with ⟨first, last, found, -, rfl⟩
  rcases ledgers with _ | ⟨head, rest⟩
  · cases found
  · cases found
    intro ledger member
    rcases List.mem_cons.mp member with rfl | later
    · exact UInt32.le_refl _
    · exact UInt32.le_of_lt ((List.pairwise_cons.mp ascending).1 ledger later)

theorem Ascending.eq_of_sequence (ascending : Ascending ledgers) {one other : ClosedLedger} (oneMember : one ∈ ledgers)
    (otherMember : other ∈ ledgers) (same : one.sequence = other.sequence) : one = other := by
  have distinct : (ledgers.map ClosedLedger.sequence).Nodup :=
    List.pairwise_map.mpr (ascending.imp fun less => UInt32.ne_of_lt less)
  exact List.inj_on_of_nodup_map distinct oneMember otherMember same

/-- Only the last of ascending sequences can be the greatest of all. -/
theorem Ascending.consecutive (ascending : Ascending ledgers) (chain : ledgers.IsChain Precedes) :
    Consecutive ledgers := by
  refine ⟨chain, ?_⟩
  intro ledger member greatest
  rcases List.eq_nil_or_concat ledgers with rfl | ⟨earlier, last, rfl⟩
  · cases member
  · rw [List.concat_eq_append] at ascending member
    rw [List.dropLast_concat] at member
    exact ne_greatest_of_lt ((List.pairwise_append.mp ascending).2.2 ledger member last (List.mem_singleton_self last))
      greatest

theorem Follows.precedes {earlier later : ClosedLedger} (follows : later.Follows earlier) : earlier.Precedes later := by
  have bound := later.sequence.toNat_lt
  have below : earlier.sequence ≠ 4294967295 := by
    intro greatest
    rw [Follows, greatest] at follows
    change later.sequence.toNat = 4294967295 + 1 at follows
    omega
  apply UInt32.toNat_inj.mp
  rw [toNat_succ below]
  exact follows

/-- Ascending sequences that are consecutive are so as numbers. -/
theorem Ascending.chain_iff (ascending : Ascending ledgers) :
    ledgers.IsChain (fun earlier later => later.Follows earlier) ↔ ledgers.IsChain Precedes := by
  constructor
  · intro chain
    exact chain.imp fun _ _ => Follows.precedes
  · intro chain
    rw [List.isChain_iff_forall_rel_of_append_cons_cons] at chain ⊢
    intro earlier later front back parts
    rw [parts] at ascending
    have less := (List.pairwise_cons.mp (List.pairwise_append.mp ascending).2.1).1 later List.mem_cons_self
    have next : later.sequence = earlier.sequence + 1 := chain parts
    rw [Follows, next, toNat_succ (ne_greatest_of_lt less)]

theorem Consecutive.gapFree (consecutive : Consecutive ledgers) : GapFree ledgers := by
  rcases ledgers with _ | ⟨first, others⟩
  · exact nofun
  · intro range ends sequence after before
    induction others generalizing first range with
    | nil =>
        cases ends
        exact ⟨first, List.mem_singleton_self first, UInt32.le_antisymm after before⟩
    | cons second more ih =>
        by_cases own : sequence = first.sequence
        · exact ⟨first, List.mem_cons_self, own.symm⟩
        · have rest : Consecutive (second :: more) :=
            of_append_right (show Consecutive ([first] ++ second :: more) from consecutive)
          have unwrapped := consecutive.unwrapped first (by rw [List.dropLast_cons_cons]; exact List.mem_cons_self)
          have next : second.sequence = first.sequence + 1 := (List.isChain_cons_cons.mp consecutive.chain).1
          have successor := toNat_succ unwrapped
          rcases ends_eq_some ends with ⟨head, last, found, newest, rfl⟩
          cases found
          rw [List.getLast?_cons_cons] at newest
          have tail : ends? (second :: more) = some ⟨second.sequence, last.sequence⟩ := by
            rw [ends?, List.head?_cons, newest]
          have later : second.sequence ≤ sequence := by
            have different : sequence.toNat ≠ first.sequence.toNat := fun same => own (UInt32.toNat_inj.mp same)
            rw [UInt32.le_iff_toNat_le] at after ⊢
            rw [next, successor]
            change first.sequence.toNat ≤ sequence.toNat at after
            omega
          rcases ih second rest _ tail later before with ⟨ledger, member, same⟩
          exact ⟨ledger, List.mem_cons_of_mem first member, same⟩

end

variable {entered accepted : List ClosedLedger}

theorem GapFree.complete {start : UInt32} (gapFree : GapFree (since start accepted))
    (consecutive : Consecutive entered) (sublist : accepted.Sublist entered) :
    ¬Missing entered accepted (since start accepted) := by
  rintro ⟨lost, member, absent, range, ends, after, before⟩
  rcases gapFree range ends lost.sequence (UInt32.le_of_lt after) (UInt32.le_of_lt before) with ⟨ledger, inside, same⟩
  have kept := (since_mem.mp inside).1
  rw [← consecutive.ascending.eq_of_sequence (sublist.subset kept) member same] at absent
  exact absent kept

theorem chain_of_complete (consecutive : Consecutive entered) (sublist : accepted.Sublist entered) {start : UInt32}
    (complete : ¬Missing entered accepted (since start accepted)) : (since start accepted).IsChain Precedes := by
  have ascending : Ascending (since start accepted) := (consecutive.ascending.sublist sublist).filter _
  rw [List.isChain_iff_forall_rel_of_append_cons_cons]
  intro earlier later front back parts
  have earlierMember : earlier ∈ since start accepted := by simp [parts]
  have laterMember : later ∈ since start accepted := by simp [parts]
  have ordered := ascending
  rw [parts] at ordered
  rcases List.pairwise_append.mp ordered with ⟨-, behind, across⟩
  rcases List.pairwise_cons.mp behind with ⟨above, last⟩
  have less := above later List.mem_cons_self
  apply Classical.byContradiction
  intro apart
  have successor := toNat_succ (ne_greatest_of_lt less)
  have between : earlier.sequence < earlier.sequence + 1 ∧ earlier.sequence + 1 < later.sequence := by
    have different : later.sequence.toNat ≠ (earlier.sequence + 1).toNat := fun same => apart (UInt32.toNat_inj.mp same)
    rw [UInt32.lt_iff_toNat_lt] at less ⊢
    rw [UInt32.lt_iff_toNat_lt]
    omega
  have inside : ∀ ledger ∈ since start accepted, ledger ∈ entered :=
    fun ledger member => sublist.subset (since_mem.mp member).1
  -- the ledger after the earlier one has been entered, and cannot be among those that remain
  rcases ends_of_mem (inside earlier earlierMember) with ⟨all, allEnds⟩
  rcases consecutive.gapFree all allEnds (earlier.sequence + 1)
    (UInt32.le_trans (consecutive.ascending.first_le allEnds earlier (inside earlier earlierMember))
      (UInt32.le_of_lt between.1))
    (UInt32.le_trans (UInt32.le_of_lt between.2)
      ((consecutive.ascending.bounds allEnds).2.1 later (inside later laterMember))) with ⟨lost, member, same⟩
  rcases ends_of_mem earlierMember with ⟨range, ends⟩
  apply complete
  refine ⟨lost, member, ?_, range, ends, ?_, ?_⟩
  · intro kept
    have remains : lost ∈ since start accepted := by
      apply since_mem.mpr ⟨kept, _⟩
      rw [same]
      exact UInt32.le_trans (since_mem.mp earlierMember).2 (UInt32.le_of_lt between.1)
    rw [parts] at remains
    rw [← same] at between
    rcases List.mem_append.mp remains with before | after
    · exact UInt32.lt_asymm between.1 (across lost before earlier List.mem_cons_self)
    · rcases List.mem_cons.mp after with rfl | after
      · exact UInt32.lt_irrefl _ between.1
      · rcases List.mem_cons.mp after with rfl | after
        · exact UInt32.lt_irrefl _ between.2
        · exact UInt32.lt_asymm between.2 ((List.pairwise_cons.mp last).1 lost after)
  · rw [same]
    exact UInt32.lt_of_le_of_lt (ascending.first_le ends earlier earlierMember) between.1
  · rw [same]
    exact UInt32.lt_of_lt_of_le between.2 ((ascending.bounds ends).2.1 later laterMember)

theorem gapFree_iff (consecutive : Consecutive entered) (sublist : accepted.Sublist entered) (start : UInt32) :
    GapFree (since start accepted) ↔ ¬Missing entered accepted (since start accepted) := by
  constructor
  · intro gapFree
    exact gapFree.complete consecutive sublist
  · intro complete
    have ascending : Ascending (since start accepted) := (consecutive.ascending.sublist sublist).filter _
    exact (ascending.consecutive (chain_of_complete consecutive sublist complete)).gapFree

end LedgerService.ClosedLedger

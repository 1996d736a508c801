import LedgerService.Proofs.Fees.Percentiles

/-!
# The mode

The most frequent fee, and of several the smallest (`IsMode`). It is found by one scan of the fees in ascending order,
where equal fees stand together. The scan is ahead of itself by one run: what it knows of the finished runs concerns
only the values below the current one, and the current run is judged when the next one begins or the fees end
(`RunScan.Tracks.close`). The value that it starts with stands for a mode while no run is finished; then the longest
run counts no repetition. A scan of all fees therefore ends with their mode (`FeeStatistics.isMode_ofFees`).
-/

namespace LedgerService

/-- The value occurs, none occurs more often, and every smaller one less often. -/
structure IsMode (fees : List UInt64) (value : UInt64) : Prop where
  member : value ∈ fees
  most : ∀ other, fees.count other ≤ fees.count value
  smallest : ∀ other, other < value → fees.count other < fees.count value

theorem IsMode.of_perm {fees others : List UInt64} {value : UInt64} (perm : others.Perm fees)
    (mode : IsMode fees value) : IsMode others value := by
  refine ⟨perm.mem_iff.mpr mode.member, ?_, ?_⟩
  · intro other
    rw [perm.count_eq, perm.count_eq]
    exact mode.most other
  · intro other less
    rw [perm.count_eq, perm.count_eq]
    exact mode.smallest other less

namespace FeeStatistics.RunScan

variable {scan : RunScan} {seen : List UInt64}

/-- The scan has found the mode of the fees seen, and how often it is repeated. -/
structure Leads (scan : RunScan) (seen : List UInt64) : Prop where
  count_mode : seen.count scan.mode = scan.longest + 1
  most : ∀ other, seen.count other ≤ scan.longest + 1
  smallest : ∀ other, other < scan.mode → seen.count other < scan.longest + 1

theorem Leads.isMode (leads : scan.Leads seen) : IsMode seen scan.mode := by
  refine ⟨?_, ?_, ?_⟩
  · apply List.count_pos_iff.mp
    rw [leads.count_mode]
    omega
  · rw [leads.count_mode]
    exact leads.most
  · rw [leads.count_mode]
    exact leads.smallest

/-- The scan knows the current run, and the mode of the values below it. -/
structure Tracks (scan : RunScan) (seen : List UInt64) : Prop where
  greatest : ∀ fee ∈ seen, fee ≤ scan.current
  count_current : seen.count scan.current = scan.repetitions + 1
  mode_le : scan.mode ≤ scan.current
  count_mode : scan.mode < scan.current → seen.count scan.mode = scan.longest + 1
  unfinished : scan.mode = scan.current → scan.longest = 0
  most : ∀ other, other < scan.current → seen.count other ≤ scan.longest + 1
  smallest : ∀ other, other < scan.mode → seen.count other < scan.longest + 1

namespace Tracks

theorem start (first : UInt64) : Tracks ⟨first, 0, first, 0⟩ [first] := by
  have none : ∀ other, other < first → [first].count other = 0 := by
    intro other less
    apply List.count_eq_zero.mpr
    simpa using UInt64.ne_of_lt less
  refine ⟨by simp, by simp, UInt64.le_refl _, ?_, fun _ => rfl, ?_, ?_⟩
  · intro less
    exact absurd less (UInt64.lt_irrefl _)
  · intro other less
    simp [none other less]
  · intro other less
    simp [none other less]

theorem current_mem (tracks : scan.Tracks seen) : scan.current ∈ seen := by
  apply List.count_pos_iff.mp
  rw [tracks.count_current]
  omega

theorem count_cases (tracks : scan.Tracks seen) (other : UInt64) :
    other < scan.current ∨ other = scan.current ∨ seen.count other = 0 := by
  by_cases member : other ∈ seen
  · rcases UInt64.lt_or_eq_of_le (tracks.greatest other member) with less | same
    · exact .inl less
    · exact .inr (.inl same)
  · exact .inr (.inr (List.count_eq_zero.mpr member))

/-- The current run ends: its value is the mode if it is longer than every run before it. -/
theorem close (tracks : scan.Tracks seen) : scan.close.Leads seen ∧ scan.close.mode ≤ scan.current := by
  have current := tracks.count_current
  unfold RunScan.close
  split
  case isTrue longer =>
    refine ⟨⟨current, ?_, ?_⟩, UInt64.le_refl _⟩
    · intro other
      dsimp only
      rcases tracks.count_cases other with less | rfl | none
      · have most := tracks.most other less
        omega
      · omega
      · omega
    · intro other less
      dsimp only
      have most := tracks.most other less
      omega
  case isFalse short =>
    refine ⟨⟨?_, ?_, tracks.smallest⟩, tracks.mode_le⟩
    · rcases UInt64.lt_or_eq_of_le tracks.mode_le with less | same
      · exact tracks.count_mode less
      · have unfinished := tracks.unfinished same
        rw [same]
        omega
    · intro other
      rcases tracks.count_cases other with less | rfl | none
      · exact tracks.most other less
      · omega
      · omega

theorem step (tracks : scan.Tracks seen) {fee : UInt64} (next : ∀ earlier ∈ seen, earlier ≤ fee) :
    (scan.step fee).Tracks (seen ++ [fee]) := by
  have elsewhere : ∀ other, other < fee → (seen ++ [fee]).count other = seen.count other := by
    intro other less
    have none : [fee].count other = 0 := by
      apply List.count_eq_zero.mpr
      simpa using UInt64.ne_of_lt less
    rw [List.count_append, none, Nat.add_zero]
  unfold RunScan.step
  split
  case isTrue same =>
    subst same
    refine ⟨?_, ?_, tracks.mode_le, ?_, tracks.unfinished, ?_, ?_⟩
    · intro earlier member
      rcases List.mem_append.mp member with before | last
      · exact tracks.greatest earlier before
      · rw [List.mem_singleton.mp last]
        exact UInt64.le_refl _
    · simp [tracks.count_current]
    · intro less
      rw [elsewhere _ less]
      exact tracks.count_mode less
    · intro other less
      rw [elsewhere other less]
      exact tracks.most other less
    · intro other less
      rw [elsewhere other (UInt64.lt_of_lt_of_le less tracks.mode_le)]
      exact tracks.smallest other less
  case isFalse apart =>
    rcases tracks.close with ⟨leads, mode_le⟩
    have beyond : scan.current < fee := UInt64.lt_of_le_of_ne (next _ tracks.current_mem) (Ne.symm apart)
    have mode_lt : scan.close.mode < fee := UInt64.lt_of_le_of_lt mode_le beyond
    have fresh : seen.count fee = 0 := by
      apply List.count_eq_zero.mpr
      intro member
      exact UInt64.not_lt.mpr (tracks.greatest fee member) beyond
    refine ⟨?_, ?_, UInt64.le_of_lt mode_lt, ?_, ?_, ?_, ?_⟩
    · intro earlier member
      rcases List.mem_append.mp member with before | last
      · exact next earlier before
      · rw [List.mem_singleton.mp last]
        exact UInt64.le_refl _
    · simp [fresh]
    · intro less
      rw [elsewhere _ less]
      exact leads.count_mode
    · intro same
      exact absurd same (UInt64.ne_of_lt mode_lt)
    · intro other less
      rw [elsewhere other less]
      exact leads.most other
    · intro other less
      rw [elsewhere other (UInt64.lt_trans less mode_lt)]
      exact leads.smallest other less

theorem run (tracks : scan.Tracks seen) {others : List UInt64} (ascending : (seen ++ others).Pairwise (· ≤ ·)) :
    (others.foldl RunScan.step scan).Tracks (seen ++ others) := by
  induction others generalizing scan seen with
  | nil =>
      rw [List.append_nil]
      exact tracks
  | cons fee rest ih =>
      rw [List.append_cons] at ascending ⊢
      apply ih (tracks.step _) ascending
      intro earlier member
      have before := (List.pairwise_append.mp ascending).1
      exact (List.pairwise_append.mp before).2.2 earlier member fee (List.mem_singleton_self fee)

end Tracks

end RunScan

/-- The first longest run of ascending fees is that of their mode. -/
theorem isMode_longestRun {first : UInt64} {others : List UInt64} (ascending : (first :: others).Pairwise (· ≤ ·)) :
    IsMode (first :: others) (longestRun first others) :=
  ((RunScan.Tracks.start first).run ascending).close.1.isMode

/-- The reported mode of fees in any order occurs, none occurs more often, and every smaller one less often. -/
theorem isMode_ofFees {fees : List UInt64} (some : fees ≠ []) (ledgers : UInt32) :
    IsMode fees (ofFees fees ledgers).mode := by
  rcases exists_inOrder some with ⟨first, rest, ordered⟩
  rcases reported_of_inOrder ordered ledgers with ⟨-, -, reported, -⟩
  have ascending := inOrder_ascending fees
  rw [ordered] at ascending
  have mode := isMode_longestRun ascending
  rw [← ordered] at mode
  rw [reported]
  exact mode.of_perm (inOrder_perm fees).symm

/-- The last run in ascending order is as long as the one before it, and comes too late. -/
theorem isMode_of_tiedRuns :
    [(9 : UInt64), 3, 9, 3, 1] ≠ [] ∧ (ofFees [9, 3, 9, 3, 1] 1).mode = 3 ∧ IsMode [9, 3, 9, 3, 1] 3 := by
  have some : [(9 : UInt64), 3, 9, 3, 1] ≠ [] := by decide
  have ordered : inOrder [9, 3, 9, 3, 1] = [1, 3, 3, 9, 9] := inOrder_eq (by decide) (by decide)
  have value : (ofFees [9, 3, 9, 3, 1] 1).mode = 3 := (reported_of_inOrder ordered 1).2.2.1
  have mode := isMode_ofFees some 1
  rw [value] at mode
  exact ⟨some, value, mode⟩

end FeeStatistics

end LedgerService

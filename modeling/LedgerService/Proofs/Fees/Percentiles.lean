import LedgerService.Fees.Statistics
import Mathlib.Data.List.Basic
import Mathlib.Data.List.Count

/-!
# Percentiles

The statistics of some fees against the fees themselves, in whatever order they come. A percentile is known by counting
(`IsNearestRank`): so many of a hundred fees are at most as great, and fewer are less. In ascending order this is the
value at the position that is the percentage of the count, rounded up (`isNearestRank_percentile`). That greater
percentages have greater percentiles follows from the counting alone (`IsNearestRank.le_of_le`), and that the
statistics do not depend on the order of the fees from the one ascending order that all their arrangements have
(`FeeStatistics.nearest_ranks_ofFees`).
-/

namespace LedgerService

/-- Counted among the fees, the value is the one that so many of a hundred reach, and fewer stay below. -/
structure IsNearestRank (fees : List UInt64) (percent : Nat) (value : UInt64) : Prop where
  member : value ∈ fees
  reached : percent * fees.length ≤ 100 * fees.countP (· ≤ value)
  below : 100 * fees.countP (· < value) < percent * fees.length

namespace IsNearestRank

variable {fees others : List UInt64} {percent more : Nat} {value greater : UInt64}

theorem of_perm (perm : others.Perm fees) (nearest : IsNearestRank fees percent value) :
    IsNearestRank others percent value := by
  refine ⟨perm.mem_iff.mpr nearest.member, ?_, ?_⟩
  · rw [perm.length_eq, perm.countP_eq]
    exact nearest.reached
  · rw [perm.length_eq, perm.countP_eq]
    exact nearest.below

/-- If the greater percentage had the lesser value, the fees up to that value would be both enough and too few. -/
theorem le_of_le (nearest : IsNearestRank fees percent value) (other : IsNearestRank fees more greater)
    (ordered : percent ≤ more) : value ≤ greater := by
  apply UInt64.not_lt.mp
  intro less
  have fewer : fees.countP (· ≤ greater) ≤ fees.countP (· < value) := by
    apply List.countP_mono_left
    intro fee _ small
    simp only [decide_eq_true_eq] at small ⊢
    exact UInt64.lt_of_le_of_lt small less
  have parts := Nat.mul_le_mul_right fees.length ordered
  have below := nearest.below
  have reached := other.reached
  omega

end IsNearestRank

/-- In ascending fees, so many precede a value: these and itself are at most as great, and no others are less. -/
theorem countP_of_ascending {front back : List UInt64} {value : UInt64}
    (ascending : (front ++ value :: back).Pairwise (· ≤ ·)) :
    front.length < (front ++ value :: back).countP (· ≤ value) ∧
      (front ++ value :: back).countP (· < value) ≤ front.length := by
  rcases List.pairwise_append.mp ascending with ⟨-, after, across⟩
  have greater := (List.pairwise_cons.mp after).1
  constructor
  · have all : front.countP (· ≤ value) = front.length := by
      apply List.countP_eq_length.mpr
      intro fee member
      simpa using across fee member value List.mem_cons_self
    rw [List.countP_append, all, List.countP_cons_of_pos (by simp)]
    omega
  · have none : back.countP (· < value) = 0 := by
      apply List.countP_eq_zero.mpr
      intro fee member
      simpa using greater fee member
    rw [List.countP_append, List.countP_cons_of_neg (by simp), none]
    exact List.countP_le_length

/-- A position of ascending fees, so that those before it are too few and those up to it are enough. -/
theorem isNearestRank_getElem {sorted : List UInt64} {percent position : Nat} (ascending : sorted.Pairwise (· ≤ ·))
    (inside : position < sorted.length) (below : 100 * position < percent * sorted.length)
    (reached : percent * sorted.length ≤ 100 * (position + 1)) : IsNearestRank sorted percent sorted[position] := by
  have parts : sorted.take position ++ sorted[position] :: sorted.drop (position + 1) = sorted := by
    rw [← List.drop_eq_getElem_cons inside, List.take_append_drop]
  have front : (sorted.take position).length = position := by
    rw [List.length_take]
    omega
  have whole : (sorted.take position ++ sorted[position] :: sorted.drop (position + 1)).Pairwise (· ≤ ·) := by
    rw [parts]
    exact ascending
  rcases countP_of_ascending whole with ⟨enough, few⟩
  rw [parts, front] at enough few
  refine ⟨List.getElem_mem inside, ?_, ?_⟩
  · omega
  · omega

namespace FeeStatistics

/-- In words that do not overflow, the rank is the percentage of the count rounded up, within the positions. -/
theorem toNat_rank {percent count : UInt64} (fits : percent.toNat * count.toNat < UInt64.size) :
    (rank percent count).toNat = max 1 (min count.toNat ((percent.toNat * count.toNat + 99) / 100)) := by
  have product : (percent * count).toNat = percent.toNat * count.toNat := by
    rw [UInt64.toNat_mul]
    exact Nat.mod_eq_of_lt fits
  have whole : percent * count % 100 = 0 ↔ percent.toNat * count.toNat % 100 = 0 := by
    rw [← product, ← UInt64.toNat_inj, UInt64.toNat_mod]
    rfl
  have parts : (percent * count / 100).toNat = percent.toNat * count.toNat / 100 := by
    rw [UInt64.toNat_div, product]
    rfl
  simp only [UInt64.size] at fits
  have rounded : (if percent * count % 100 = 0 then percent * count / 100 else percent * count / 100 + 1).toNat =
      (percent.toNat * count.toNat + 99) / 100 := by
    split
    case isTrue exact =>
      rw [parts]
      have remainder : percent.toNat * count.toNat % 100 = 0 := whole.mp exact
      omega
    case isFalse inexact =>
      have remainder : percent.toNat * count.toNat % 100 ≠ 0 := fun none => inexact (whole.mpr none)
      rw [UInt64.toNat_add, parts, UInt64.toNat_one]
      omega
  rw [rank, UInt64.toNat_max, UInt64.toNat_min, rounded]
  rfl

/-- The position of a percentile: so many values before it are too few, and with it there are enough. -/
theorem rank_bounds {percent count : Nat} (some : 0 < percent) (part : percent ≤ 99) (occupied : 0 < count)
    (few : 99 * count < UInt64.size) :
    ∃ position, (rank (UInt64.ofNat percent) (UInt64.ofNat count)).toNat = position + 1 ∧ position < count ∧
      100 * position < percent * count ∧ percent * count ≤ 100 * (position + 1) := by
  have least : 1 * count ≤ percent * count := Nat.mul_le_mul_right count some
  have most : percent * count ≤ 99 * count := Nat.mul_le_mul_right count part
  have percentWord : (UInt64.ofNat percent).toNat = percent := by
    apply UInt64.toNat_ofNat_of_lt'
    simp only [UInt64.size]
    omega
  have countWord : (UInt64.ofNat count).toNat = count := by
    apply UInt64.toNat_ofNat_of_lt'
    omega
  have fits : (UInt64.ofNat percent).toNat * (UInt64.ofNat count).toNat < UInt64.size := by
    rw [percentWord, countWord]
    omega
  refine ⟨(percent * count + 99) / 100 - 1, ?_, ?_, ?_, ?_⟩
  · rw [toNat_rank fits, percentWord, countWord]
    omega
  · omega
  · omega
  · omega

/-- The percentages of which percentiles are reported. -/
def percentages : List Nat := [10, 20, 30, 40, 50, 60, 70, 80, 90, 95, 99]

/-- The reported percentiles, each with its percentage. -/
def percentiles (statistics : FeeStatistics) : List (Nat × UInt64) :=
  [(10, statistics.p10), (20, statistics.p20), (30, statistics.p30), (40, statistics.p40), (50, statistics.p50),
    (60, statistics.p60), (70, statistics.p70), (80, statistics.p80), (90, statistics.p90), (95, statistics.p95),
    (99, statistics.p99)]

/-- The fees in ascending order. -/
def inOrder (fees : List UInt64) : List UInt64 := fees.mergeSort fun left right => decide (left ≤ right)

section

variable {fees others rest : List UInt64} {first : UInt64}

theorem inOrder_perm (fees : List UInt64) : (inOrder fees).Perm fees := List.mergeSort_perm fees _

theorem inOrder_ascending (fees : List UInt64) : (inOrder fees).Pairwise (· ≤ ·) := by
  have transitive : ∀ least middle greatest : UInt64,
      decide (least ≤ middle) = true → decide (middle ≤ greatest) = true → decide (least ≤ greatest) = true := by
    intro least middle greatest
    simpa using UInt64.le_trans
  have total : ∀ one other : UInt64, (decide (one ≤ other) || decide (other ≤ one)) = true := by
    intro one other
    simpa using UInt64.le_total one other
  have ordered := List.pairwise_mergeSort transitive total fees
  unfold inOrder
  simpa only [decide_eq_true_eq] using ordered

/-- Fees have one ascending order only. -/
theorem inOrder_eq (perm : others.Perm fees) (ascending : others.Pairwise (· ≤ ·)) : inOrder fees = others := by
  apply List.Perm.eq_of_pairwise _ (inOrder_ascending fees) ascending
  · exact (inOrder_perm fees).trans perm.symm
  · intro one other _ _ le ge
    exact UInt64.le_antisymm le ge

theorem mergeSort_of_ascending (ascending : fees.Pairwise (· ≤ ·)) :
    fees.mergeSort (fun left right => decide (left ≤ right)) = fees :=
  inOrder_eq (.refl fees) ascending

theorem inOrder_of_perm (perm : others.Perm fees) : inOrder others = inOrder fees :=
  inOrder_eq ((inOrder_perm fees).trans perm.symm) (inOrder_ascending fees)

theorem exists_inOrder (some : fees ≠ []) : ∃ first rest, inOrder fees = first :: rest := by
  apply List.exists_cons_of_ne_nil
  intro none
  have perm := inOrder_perm fees
  rw [none] at perm
  exact some perm.nil_eq.symm

theorem ofFees_of_perm (perm : others.Perm fees) (ledgers count : UInt32) :
    ofFees others count = { ofFees fees ledgers with ledgers := count } := by
  have same := inOrder_of_perm perm
  unfold inOrder at same
  rw [ofFees, ofFees, same]
  split
  · rfl
  · rfl

/-- What is reported of fees is read off their ascending order. -/
theorem reported_of_inOrder (ordered : inOrder fees = first :: rest) (ledgers : UInt32) :
    (ofFees fees ledgers).minimum = first ∧ (first :: rest).getLast? = some (ofFees fees ledgers).maximum ∧
      (ofFees fees ledgers).mode = longestRun first rest ∧
      (ofFees fees ledgers).percentiles =
        percentages.map fun percent => (percent, percentile (first :: rest).toArray (UInt64.ofNat percent)) := by
  rw [List.getLast?_cons]
  unfold inOrder at ordered
  rw [ofFees, ordered]
  exact ⟨rfl, rfl, rfl, rfl⟩

theorem isNearestRank_percentile {percent : Nat} (positive : 0 < percent) (part : percent ≤ 99) (some : fees ≠ [])
    (few : 99 * fees.length < UInt64.size) :
    IsNearestRank fees percent (percentile (inOrder fees).toArray (UInt64.ofNat percent)) := by
  have length : (inOrder fees).length = fees.length := (inOrder_perm fees).length_eq
  rcases rank_bounds positive part (List.length_pos_of_ne_nil some) few with ⟨position, placed, inside, below, reached⟩
  rw [← length] at placed inside below reached
  have found : percentile (inOrder fees).toArray (UInt64.ofNat percent) = (inOrder fees)[position] := by
    rw [percentile, List.size_toArray, placed]
    simp [inside]
  rw [found]
  exact (isNearestRank_getElem (inOrder_ascending fees) inside below reached).of_perm (inOrder_perm fees).symm

theorem nearest_of_mem_percentiles (some : fees ≠ []) (few : 99 * fees.length < UInt64.size) (ledgers : UInt32) :
    ∀ reported ∈ (ofFees fees ledgers).percentiles, IsNearestRank fees reported.1 reported.2 := by
  rcases exists_inOrder some with ⟨first, rest, ordered⟩
  rcases reported_of_inOrder ordered ledgers with ⟨-, -, -, percentiles⟩
  rw [percentiles, ← ordered]
  intro reported member
  rcases List.mem_map.mp member with ⟨percent, known, rfl⟩
  have range : 0 < percent ∧ percent ≤ 99 := by
    simp only [percentages, List.mem_cons, List.not_mem_nil, or_false] at known
    omega
  exact isNearestRank_percentile range.1 range.2 some few

theorem minimum_least (some : fees ≠ []) (ledgers : UInt32) :
    (ofFees fees ledgers).minimum ∈ fees ∧ ∀ fee ∈ fees, (ofFees fees ledgers).minimum ≤ fee := by
  rcases exists_inOrder some with ⟨first, rest, ordered⟩
  rcases reported_of_inOrder ordered ledgers with ⟨minimum, -⟩
  have ascending := inOrder_ascending fees
  rw [minimum]
  constructor
  · apply (inOrder_perm fees).mem_iff.mp
    simp [ordered]
  · intro fee member
    have found := (inOrder_perm fees).mem_iff.mpr member
    rw [ordered] at ascending found
    rcases List.mem_cons.mp found with rfl | later
    · exact UInt64.le_refl _
    · exact (List.pairwise_cons.mp ascending).1 fee later

theorem maximum_greatest (some : fees ≠ []) (ledgers : UInt32) :
    (ofFees fees ledgers).maximum ∈ fees ∧ ∀ fee ∈ fees, fee ≤ (ofFees fees ledgers).maximum := by
  rcases exists_inOrder some with ⟨first, rest, ordered⟩
  rcases reported_of_inOrder ordered ledgers with ⟨-, maximum, -⟩
  rw [← ordered] at maximum
  rcases List.getLast?_eq_some_iff.mp maximum with ⟨front, parts⟩
  have ascending := inOrder_ascending fees
  constructor
  · apply (inOrder_perm fees).mem_iff.mp
    simp [parts]
  · intro fee member
    have found := (inOrder_perm fees).mem_iff.mpr member
    rw [parts] at ascending found
    rcases List.mem_append.mp found with earlier | last
    · exact (List.pairwise_append.mp ascending).2.2 fee earlier _ (List.mem_singleton_self _)
    · rw [List.mem_singleton.mp last]
      exact UInt64.le_refl _

/--
The statistics of fees in any order. Every reported percentile is the nearest rank among them; the minimum and the
maximum are the least and the greatest fee; in this order, from the minimum over the percentiles to the maximum, none is
less than one before it. Fees in another order have the same statistics, but for the number of ledgers, which is given.
-/
theorem nearest_ranks_ofFees (some : fees ≠ []) (few : 99 * fees.length < UInt64.size) (ledgers : UInt32) :
    let statistics := ofFees fees ledgers
    (∀ reported ∈ statistics.percentiles, IsNearestRank fees reported.1 reported.2) ∧
    (statistics.minimum ∈ fees ∧ ∀ fee ∈ fees, statistics.minimum ≤ fee) ∧
    (statistics.maximum ∈ fees ∧ ∀ fee ∈ fees, fee ≤ statistics.maximum) ∧
    (statistics.minimum :: (statistics.percentiles.map Prod.snd ++ [statistics.maximum])).Pairwise (· ≤ ·) ∧
    ∀ others, others.Perm fees → ∀ count, ofFees others count = { statistics with ledgers := count } := by
  intro statistics
  have nearest : ∀ reported ∈ statistics.percentiles, IsNearestRank fees reported.1 reported.2 :=
    nearest_of_mem_percentiles some few ledgers
  have least := minimum_least some ledgers
  have greatest := maximum_greatest some ledgers
  refine ⟨nearest, least, greatest, ?_, fun others perm count => ofFees_of_perm perm ledgers count⟩
  have climbing : statistics.percentiles.Pairwise fun reported other => reported.1 ≤ other.1 := by
    simp [percentiles]
  apply List.pairwise_cons.mpr
  constructor
  · intro value member
    rcases List.mem_append.mp member with percentile | last
    · rcases List.mem_map.mp percentile with ⟨reported, known, rfl⟩
      exact least.2 _ (nearest reported known).member
    · rw [List.mem_singleton.mp last]
      exact least.2 _ greatest.1
  · apply List.pairwise_append.mpr
    refine ⟨?_, List.pairwise_singleton _ _, ?_⟩
    · apply List.pairwise_map.mpr
      apply climbing.imp_of_mem
      intro reported other known otherKnown ordered
      exact (nearest reported known).le_of_le (nearest other otherKnown) ordered
    · intro value percentile maximum last
      rcases List.mem_map.mp percentile with ⟨reported, known, rfl⟩
      rw [List.mem_singleton.mp last]
      exact greatest.2 _ (nearest reported known).member

/-- Ten fees, most of which are out of order. -/
def tenFees : List UInt64 := [90, 10, 50, 20, 80, 30, 70, 40, 100, 60]

/-- A tenth of ten fees is one of them, and ninety-five of a hundred are all of them. -/
theorem nearest_ranks_tenFees :
    tenFees ≠ [] ∧ 99 * tenFees.length < UInt64.size ∧ IsNearestRank tenFees 10 10 ∧ IsNearestRank tenFees 90 90 ∧
      IsNearestRank tenFees 95 100 ∧
      ofFees tenFees.reverse 3 = { ofFees tenFees 1 with ledgers := 3 } := by
  have some : tenFees ≠ [] := by decide
  have few : 99 * tenFees.length < UInt64.size := by decide
  have ordered : inOrder tenFees = [10, 20, 30, 40, 50, 60, 70, 80, 90, 100] := inOrder_eq (by decide) (by decide)
  have reported : (ofFees tenFees 1).percentiles =
      [(10, 10), (20, 20), (30, 30), (40, 40), (50, 50), (60, 60), (70, 70), (80, 80), (90, 90), (95, 100), (99, 100)] := by
    rw [(reported_of_inOrder ordered 1).2.2.2]
    decide
  rcases nearest_ranks_ofFees some few 1 with ⟨nearest, -, -, -, same⟩
  rw [reported] at nearest
  exact ⟨some, few, nearest (10, 10) (by simp), nearest (90, 90) (by simp), nearest (95, 100) (by simp),
    same _ (List.reverse_perm _) 3⟩

end

end FeeStatistics

end LedgerService

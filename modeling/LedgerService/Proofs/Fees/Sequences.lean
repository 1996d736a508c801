import LedgerService.Proofs.Fees.History
import LedgerService.Proofs.Ledger.Order

/-!
# The sequences in a ring

The sequences of the retained buckets, read as integers from the oldest to the newest. Each of them is the one before
it plus one, but after the greatest sequence of all comes zero, since what a ring expects is reckoned in a word. Hence
the sequences climb by one exactly as long as the greatest one is not followed by zero among them, and no sequence
is retained twice, for a ring has fewer places than there are words (`BucketRing.climbs_iff_of_attempts`).
`BucketRing.starts_over_after_greatest` is a ring whose sequences do not climb.
-/

namespace LedgerService

variable {α : Type}

/-- The sequence after another one, which is zero after the greatest one. -/
def IsNextSequence (earlier later : Nat) : Prop := later = earlier + 1 ∨ earlier = 4294967295 ∧ later = 0

theorem Bucket.Precedes.isNextSequence {earlier later : Bucket α} (precedes : earlier.Precedes later) :
    IsNextSequence earlier.sequence.toNat later.sequence.toNat := by
  have next : later.sequence = earlier.sequence + 1 := precedes
  rw [next]
  by_cases greatest : earlier.sequence = 4294967295
  · right
    simp [greatest]
  · left
    exact ClosedLedger.toNat_succ greatest

section

variable {numbers : List Nat}

theorem climbs_iff_of_chain (chain : numbers.IsChain IsNextSequence) :
    numbers.IsChain (fun earlier later => later = earlier + 1) ↔ ¬[4294967295, 0] <:+: numbers := by
  constructor
  · intro climbs startsOver
    have pair := climbs.infix startsOver
    simp at pair
  · intro never
    apply List.isChain_iff_forall_rel_of_append_cons_cons.mpr
    intro earlier later front back parts
    rcases List.isChain_iff_forall_rel_of_append_cons_cons.mp chain parts with next | ⟨greatest, zero⟩
    · exact next
    · apply absurd _ never
      exact ⟨front, back, by simp [parts, greatest, zero]⟩

theorem increases_iff_of_chain (chain : numbers.IsChain IsNextSequence) :
    numbers.Pairwise (· < ·) ↔ ¬[4294967295, 0] <:+: numbers := by
  constructor
  · intro increases startsOver
    have pair := increases.sublist startsOver.sublist
    simp at pair
  · intro never
    apply List.isChain_iff_pairwise.mp
    apply ((climbs_iff_of_chain chain).mpr never).imp
    intro earlier later next
    omega

end

/-- What was accepted are some of the attempts, in their order. -/
theorem History.items_sublist {ρ β ω ε : Type} {offer : ρ → β → ρ × Except ε ω} (fresh : ρ) (attempts : List β) :
    (History.after offer fresh attempts).items.Sublist attempts := by
  induction attempts using List.reverseRecOn with
  | nil => exact List.Sublist.refl []
  | append_singleton earlier item ih =>
      rw [History.after_concat, History.attempt]
      split
      · rw [History.items_concat]
        exact ih.append_right [item]
      · exact ih.trans (List.sublist_append_left earlier [item])

/-- Consecutive sequences, counted from the oldest one. -/
theorem map_sequence_of_precedes (oldest : Bucket α) (others : List (Bucket α))
    (consecutive : (oldest :: others).IsChain Bucket.Precedes) :
    (oldest :: others).map Bucket.sequence =
      (List.range (oldest :: others).length).map fun place => oldest.sequence + UInt32.ofNat place := by
  induction others generalizing oldest with
  | nil => simp
  | cons next rest ih =>
      rcases List.isChain_cons_cons.mp consecutive with ⟨precedes, later⟩
      have first : next.sequence = oldest.sequence + 1 := precedes
      have places : List.range (oldest :: next :: rest).length = 0 :: (List.range (next :: rest).length).map Nat.succ := by
        rw [List.length_cons, List.range_succ_eq_map]
      rw [places, List.map_cons, ih next later, List.map_cons, List.map_map]
      congr 1
      · simp
      · apply List.map_congr_left
        intro place _
        simp [first, UInt32.ofNat_add, UInt32.add_assoc, UInt32.add_comm 1]

/-- Consecutive buckets have different sequences, as long as they are fewer than all sequences. -/
theorem nodup_sequences (buckets : List (Bucket α)) (consecutive : buckets.IsChain Bucket.Precedes)
    (fewer : buckets.length ≤ UInt32.size) : (buckets.map fun bucket => bucket.sequence.toNat).Nodup := by
  cases buckets with
  | nil => simp
  | cons oldest others =>
      have distinct : ((oldest :: others).map Bucket.sequence).Nodup := by
        rw [map_sequence_of_precedes oldest others consecutive]
        apply List.Nodup.map_on _ List.nodup_range
        intro place inside other otherInside same
        have place_lt := List.mem_range.mp inside
        have other_lt := List.mem_range.mp otherInside
        have words := (UInt32.add_right_inj _).mp same
        have numbers := congrArg UInt32.toNat words
        rw [UInt32.toNat_ofNat_of_lt' (by omega), UInt32.toNat_ofNat_of_lt' (by omega)] at numbers
        exact numbers
      have numbers := distinct.map (f := UInt32.toNat) fun _ _ same => UInt32.toNat_inj.mp same
      rw [List.map_map] at numbers
      exact numbers

namespace BucketRing

/-- The sequences of the retained buckets as integers, from the oldest to the newest. -/
def sequences (ring : BucketRing α) : List Nat := ring.toList.map fun bucket => bucket.sequence.toNat

theorem isQueue_after {retention : UInt32} {fresh : BucketRing α} (created : BucketRing.empty retention = .ok fresh)
    (attempts : List (Bucket α)) : IsQueue retention.toNat (History.after BucketRing.offer fresh attempts) := by
  by_cases positive : 0 < retention
  · rcases BucketRing.empty_of_positive (α := α) positive with ⟨ring, same, capacity, nothing⟩
    rw [created] at same
    cases same
    exact History.invariant_after (.start capacity nothing) (fun queue => queue.attempt) attempts
  · have zero : ¬0 < retention.toNat := positive
    simp [BucketRing.empty, zero] at created

/--
A fresh ring, after any attempts, accepted or refused. Each retained sequence is one more than the sequence before it,
or it is zero and follows the greatest one. So the sequences climb by exactly one, and they increase strictly, just if
zero does not follow the greatest one among them, which needs an attempt with the sequence zero; and in any case no
sequence is retained twice.
-/
theorem climbs_iff_of_attempts {retention : UInt32} {fresh : BucketRing α}
    (created : BucketRing.empty retention = .ok fresh) (attempts : List (Bucket α)) :
    let ring := (History.after BucketRing.offer fresh attempts).state
    ring.sequences.IsChain (fun earlier later => later = (earlier + 1) % UInt32.size) ∧
    (ring.sequences.IsChain (fun earlier later => later = earlier + 1) ↔ ¬[4294967295, 0] <:+: ring.sequences) ∧
    (ring.sequences.Pairwise (· < ·) ↔ ¬[4294967295, 0] <:+: ring.sequences) ∧
    ((∀ bucket ∈ attempts, bucket.sequence ≠ 0) →
      ring.sequences.IsChain fun earlier later => later = earlier + 1) ∧
    ring.sequences.Nodup := by
  intro ring
  have queue : IsQueue retention.toNat (History.after BucketRing.offer fresh attempts) := isQueue_after created attempts
  have chain : ring.sequences.IsChain IsNextSequence := by
    apply (List.isChain_map _).mpr
    exact queue.ring_consecutive.imp fun _ _ precedes => precedes.isNextSequence
  refine ⟨?_, climbs_iff_of_chain chain, increases_iff_of_chain chain, ?_, ?_⟩
  · apply (List.isChain_map _).mpr
    apply queue.ring_consecutive.imp
    intro earlier later precedes
    have next : later.sequence = earlier.sequence + 1 := precedes
    rw [next, UInt32.toNat_add]
    rfl
  · intro never
    apply (climbs_iff_of_chain chain).mpr
    intro startsOver
    have retained : 0 ∈ ring.sequences := startsOver.subset (by simp)
    rcases List.mem_map.mp retained with ⟨bucket, member, zero⟩
    have accepted : bucket ∈ History.items (History.after BucketRing.offer fresh attempts) := by
      rw [← queue.conserved]
      exact List.mem_append_right _ member
    apply never bucket ((History.items_sublist fresh attempts).subset accepted)
    exact UInt32.toNat_inj.mp zero
  · apply nodup_sequences _ queue.ring_consecutive
    rw [length_toList, queue.size_eq]
    have fewer := retention.toNat_lt
    simp only [UInt32.size]
    omega

/-- Two buckets are retained: the greatest sequence and zero after it, and then zero and one. -/
theorem climbs_iff_fiveBuckets :
    ∃ fresh : BucketRing Nat, BucketRing.empty 2 = .ok fresh ∧
      (History.after BucketRing.offer fresh (fiveBuckets.take 4)).state.sequences = [4294967295, 0] ∧
      ¬(History.after BucketRing.offer fresh (fiveBuckets.take 4)).state.sequences.Pairwise (· < ·) ∧
      (History.after BucketRing.offer fresh fiveBuckets).state.sequences.Pairwise (· < ·) := by
  rcases BucketRing.empty_of_positive (α := Nat) (by decide : (0 : UInt32) < 2) with ⟨fresh, created, -⟩
  have outcome : (BucketRing.empty 2).toOption.map (fun fresh =>
      ((History.after BucketRing.offer fresh (fiveBuckets.take 4)).state.sequences,
        (History.after BucketRing.offer fresh fiveBuckets).state.sequences)) =
        some ([4294967295, 0], [0, 1]) := by decide +kernel
  rw [created] at outcome
  have reached := Option.some.inj outcome
  have before := congrArg Prod.fst reached
  have after := congrArg Prod.snd reached
  dsimp only at before after
  rcases climbs_iff_of_attempts created (fiveBuckets.take 4) with ⟨-, -, increases, -⟩
  rcases climbs_iff_of_attempts created fiveBuckets with ⟨-, -, increasesAgain, -⟩
  refine ⟨fresh, created, before, ?_, ?_⟩
  · rw [increases, before]
    exact not_not_intro (List.infix_refl _)
  · rw [increasesAgain, after]
    decide

/-- A ring whose sequences do not climb: after the greatest one it has accepted zero. -/
theorem starts_over_after_greatest :
    ∃ fresh : BucketRing Nat, BucketRing.empty 3 = .ok fresh ∧
      let ring := (History.after BucketRing.offer fresh [⟨4294967295, 0, 10⟩, ⟨0, 5, 20⟩]).state
      ring.sequences = [4294967295, 0] ∧ ¬ring.sequences.IsChain (fun earlier later => later = earlier + 1) ∧
        ¬ring.sequences.Pairwise (· < ·) := by
  rcases BucketRing.empty_of_positive (α := Nat) (by decide : (0 : UInt32) < 3) with ⟨fresh, created, -⟩
  have outcome : (BucketRing.empty 3).toOption.map (fun fresh =>
      (History.after BucketRing.offer fresh
        [(⟨4294967295, 0, 10⟩ : Bucket Nat), ⟨0, 5, 20⟩]).state.sequences) = some [4294967295, 0] := by
    decide +kernel
  rw [created] at outcome
  have reached := Option.some.inj outcome
  dsimp only at reached
  refine ⟨fresh, created, reached, ?_, ?_⟩
  · rw [reached]
    simp
  · rw [reached]
    simp

end BucketRing

end LedgerService

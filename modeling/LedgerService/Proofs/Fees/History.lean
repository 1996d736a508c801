import LedgerService.Proofs.Fees.Percentiles
import LedgerService.Proofs.Fees.Window

/-!
# Histories of rings and windows

What has become of a ring or of a fee window to which buckets were offered one after the other, of which it accepted
some and refused the others. A history keeps the accepted ones beside the state. What holds at the start and is kept by
every offer, whether it is accepted or refused, holds of the whole history (`History.invariant_after`).

A ring is a bounded queue of the buckets that it has accepted (`BucketRing.queue_of_attempts`), and the statistics of a
window are always those of the buckets that it retains (`FeeWindow.statistics_of_attempts`).
-/

namespace LedgerService

/-- A state, and what it has accepted, the latest last, each with what the state gave out for it. -/
structure History (ρ β ω : Type) where
  state : ρ
  accepted : List (β × ω)

namespace History

variable {ρ β ω ε : Type} {offer : ρ → β → ρ × Except ε ω}

/-- The items that were accepted. -/
def items (history : History ρ β ω) : List β := history.accepted.map Prod.fst

/-- Offers an item, which is accepted or refused. -/
def attempt (offer : ρ → β → ρ × Except ε ω) (history : History ρ β ω) (item : β) : History ρ β ω :=
  match offer history.state item with
  | (state, .ok given) => ⟨state, history.accepted ++ [(item, given)]⟩
  | (state, .error _) => { history with state }

/-- Offers items one after the other. -/
def after (offer : ρ → β → ρ × Except ε ω) (fresh : ρ) (attempts : List β) : History ρ β ω :=
  attempts.foldl (attempt offer) ⟨fresh, []⟩

theorem after_concat (fresh : ρ) (attempts : List β) (item : β) :
    after offer fresh (attempts ++ [item]) = (after offer fresh attempts).attempt offer item := by
  simp [after]

/-- A refusal that leaves the state as it is leaves the history as it is. -/
theorem attempt_of_error {history : History ρ β ω} {item : β} {failure : ε}
    (refused : offer history.state item = (history.state, .error failure)) : history.attempt offer item = history := by
  simp [attempt, refused]

/-- What holds at the start, and is kept by every attempt, holds after all attempts. -/
theorem invariant_after {Invariant : History ρ β ω → Prop} {fresh : ρ} (start : Invariant ⟨fresh, []⟩)
    (kept : ∀ {history item}, Invariant history → Invariant (history.attempt offer item)) (attempts : List β) :
    Invariant (after offer fresh attempts) := by
  induction attempts using List.reverseRecOn with
  | nil => exact start
  | append_singleton earlier item ih =>
      rw [after_concat]
      exact kept ih

/-- The items that had to go. -/
def evicted (history : History ρ β (Option β)) : List β := history.accepted.filterMap Prod.snd

@[simp]
theorem items_concat (state : ρ) (accepted : List (β × ω)) (item : β) (given : ω) :
    (⟨state, accepted ++ [(item, given)]⟩ : History ρ β ω).items = accepted.map Prod.fst ++ [item] := by
  simp [items]

@[simp]
theorem evicted_concat (state : ρ) (accepted : List (β × Option β)) (item : β) (gone : Option β) :
    (⟨state, accepted ++ [(item, gone)]⟩ : History ρ β (Option β)).evicted =
      accepted.filterMap Prod.snd ++ gone.toList := by
  cases gone <;> simp [evicted]

end History

/-- The last of some items, at most so many. -/
theorem rtake_min_length {α : Type} (items : List α) (count : Nat) :
    items.rtake (min count items.length) = items.rtake count := by
  unfold List.rtake
  congr 1
  omega

section

variable {α : Type}

/-- The ring holds the last of the buckets that it has accepted; all others have been given out, the oldest first. -/
structure BucketRing.IsQueue (retention : Nat) (history : History (BucketRing α) (Bucket α) (Option (Bucket α))) :
    Prop where
  capacity : history.state.capacity = retention
  conserved : history.evicted ++ history.state.toList = history.items
  last : history.state.toList = history.items.rtake retention
  consecutive : history.items.IsChain Bucket.Precedes

namespace BucketRing.IsQueue

variable {retention : Nat} {history : History (BucketRing α) (Bucket α) (Option (Bucket α))} {bucket : Bucket α}

theorem start {fresh : BucketRing α} (capacity : fresh.capacity = retention) (nothing : fresh.toList = []) :
    IsQueue retention ⟨fresh, []⟩ := by
  refine ⟨capacity, ?_, ?_, .nil⟩
  · simp [History.evicted, History.items, nothing]
  · simp [History.items, nothing]

theorem positive (queue : IsQueue retention history) : 0 < retention := by
  have within := history.state.start_lt
  rw [queue.capacity] at within
  omega

theorem ring_consecutive (queue : IsQueue retention history) : history.state.toList.IsChain Bucket.Precedes := by
  rw [queue.last]
  exact queue.consecutive.drop _

theorem size_eq (queue : IsQueue retention history) : history.state.size = min retention history.items.length := by
  rw [← length_toList, queue.last, List.rtake, List.length_drop]
  omega

theorem newest?_eq (queue : IsQueue retention history) : history.state.newest? = history.items.getLast? := by
  rw [BucketRing.newest?_eq, queue.last, getLast?_rtake _ queue.positive]

/-- What had to go are the buckets that so many others have followed. -/
theorem length_evicted (queue : IsQueue retention history) :
    history.evicted.length = history.items.length - retention := by
  have whole := congrArg List.length queue.conserved
  rw [List.length_append, length_toList, queue.size_eq] at whole
  omega

theorem accept (queue : IsQueue retention history)
    (next : ∀ newest ∈ history.state.toList.getLast?, newest.Precedes bucket) :
    IsQueue retention
      ⟨(history.state.insert bucket).1, history.accepted ++ [(bucket, (history.state.insert bucket).2)]⟩ := by
  refine ⟨?_, ?_, ?_, ?_⟩
  · rw [insert_capacity, queue.capacity]
  · have conserved := queue.conserved
    simp only [History.evicted_concat, History.items_concat, List.append_assoc, insert_conserves]
    rw [← List.append_assoc]
    exact congrArg (· ++ [bucket]) conserved
  · rw [History.items_concat, toList_insert, queue.last, queue.capacity, rtake_append_singleton]
    rfl
  · rw [History.items_concat]
    apply queue.consecutive.append (List.isChain_singleton bucket)
    intro newest last first only
    cases only
    apply next newest
    rw [queue.last, getLast?_rtake _ queue.positive]
    exact last

theorem attempt (queue : IsQueue retention history) : IsQueue retention (history.attempt offer bucket) := by
  rcases offer_cases queue.ring_consecutive bucket with ⟨next, inserted⟩ | ⟨newest, last, gap, refused⟩
  · rw [History.attempt, inserted]
    exact queue.accept next
  · rw [History.attempt_of_error refused]
    exact queue

/-- What is refused leaves the ring as it is. -/
theorem unchanged (queue : IsQueue retention history) {failure : FeeFailure}
    (refused : (history.state.offer bucket).2 = .error failure) : (history.state.offer bucket).1 = history.state := by
  rcases offer_cases queue.ring_consecutive bucket with ⟨next, inserted⟩ | ⟨newest, last, gap, unchanged⟩
  · rw [inserted] at refused
    cases refused
  · rw [unchanged]

theorem offer_eq_error (queue : IsQueue retention history) {failure : FeeFailure} :
    (history.state.offer bucket).2 = .error failure ↔
      ∃ newest ∈ history.state.newest?, bucket.sequence ≠ newest.sequence + 1 ∧
        failure = .gap (newest.sequence + 1) bucket.sequence := by
  rw [BucketRing.newest?_eq]
  rcases offer_cases queue.ring_consecutive bucket with ⟨next, inserted⟩ | ⟨newest, last, gap, refused⟩
  · apply iff_of_false
    · simp [inserted]
    · rintro ⟨newest, last, apart, -⟩
      exact apart (next newest last)
  · rw [refused]
    constructor
    · intro same
      exact ⟨newest, last, gap, (Except.error.inj same).symm⟩
    · rintro ⟨other, known, -, rfl⟩
      rw [Option.mem_unique known last]

/-- What had to go for an accepted bucket was accepted as many buckets before it as the ring retains. -/
theorem gone_eq {larger : BucketRing α} {gone : Option (Bucket α)} (queue : IsQueue retention history)
    (accepted : history.state.offer bucket = (larger, .ok gone)) :
    gone = if history.items.length < retention then none else history.items[history.items.length - retention]? := by
  have later : IsQueue retention ⟨larger, history.accepted ++ [(bucket, gone)]⟩ := by
    have attempted : IsQueue retention (history.attempt offer bucket) := queue.attempt
    rwa [History.attempt, accepted] at attempted
  have evicted : History.evicted ⟨larger, history.accepted ++ [(bucket, gone)]⟩ = history.evicted ++ gone.toList :=
    History.evicted_concat ..
  have items : History.items ⟨larger, history.accepted ++ [(bucket, gone)]⟩ = history.items ++ [bucket] :=
    History.items_concat ..
  have before := queue.length_evicted
  have behind := later.length_evicted
  have whole := later.conserved
  rw [evicted, items, List.length_append, List.length_append, List.length_singleton] at behind
  rw [evicted, items] at whole
  have positive := queue.positive
  split
  · cases gone with
    | none => rfl
    | some old =>
        rw [Option.toList_some, List.length_singleton] at behind
        omega
  · cases gone with
    | none =>
        rw [Option.toList_none, List.length_nil] at behind
        omega
    | some old =>
        have place := congrArg (·[history.evicted.length]?) whole
        rw [before] at place
        simpa [List.getElem?_append, before, show history.items.length - retention < history.items.length by omega]
          using place

end BucketRing.IsQueue

/--
A fresh ring, after any attempts: it holds the last of the buckets that it has accepted, as many as it retains, and
shows them by their positions; each accepted bucket has gone or is still there, in the order of acceptance. A bucket is
refused just if the ring has a newest bucket that it does not follow, for exactly this reason, and then nothing changes;
an accepted one sends the bucket away that was accepted as many buckets before it as the ring retains.
-/
theorem BucketRing.queue_of_attempts {retention : UInt32} (positive : 0 < retention) :
    ∃ fresh : BucketRing α, BucketRing.empty retention = .ok fresh ∧
      ∀ attempts : List (Bucket α),
        let history := History.after BucketRing.offer fresh attempts
        let ring := history.state
        let count := history.items.length
        let last := history.items.rtake (min retention.toNat count)
        ring.toList = last ∧ ring.size = min retention.toNat count ∧
        (∀ index, ring.get? index = last[index]?) ∧ (∀ index, ring.size ≤ index → ring.get? index = none) ∧
        history.evicted ++ ring.toList = history.items ∧
        (∀ bucket failure, (ring.offer bucket).2 = .error failure ↔
          ∃ newest ∈ ring.newest?, bucket.sequence ≠ newest.sequence + 1 ∧
            failure = .gap (newest.sequence + 1) bucket.sequence) ∧
        (∀ bucket failure, (ring.offer bucket).2 = .error failure →
          (ring.offer bucket).1 = ring ∧ History.after BucketRing.offer fresh (attempts ++ [bucket]) = history) ∧
        ∀ bucket larger gone, ring.offer bucket = (larger, .ok gone) →
          gone = if count < retention.toNat then none else history.items[count - retention.toNat]? := by
  rcases BucketRing.empty_of_positive (α := α) positive with ⟨fresh, created, capacity, nothing⟩
  refine ⟨fresh, created, ?_⟩
  intro attempts history ring count last
  have queue : IsQueue retention.toNat history :=
    History.invariant_after (.start capacity nothing) (fun queue => queue.attempt) attempts
  have listed : ring.toList = last := queue.last.trans (rtake_min_length _ _).symm
  refine ⟨listed, queue.size_eq, ?_, ?_, queue.conserved, ?_, ?_, ?_⟩
  · intro index
    rw [ring.get?_eq, listed]
  · intro index beyond
    rw [ring.get?_eq, List.getElem?_eq_none]
    rw [length_toList]
    exact beyond
  · intro bucket failure
    exact queue.offer_eq_error
  · intro bucket failure refused
    have unchanged := queue.unchanged refused
    refine ⟨unchanged, ?_⟩
    rw [History.after_concat]
    exact History.attempt_of_error (Prod.ext unchanged refused)
  · intro bucket larger gone accepted
    exact queue.gone_eq accepted

/-- Buckets around the last sequence, one of them after a gap. -/
def fiveBuckets : List (Bucket Nat) :=
  [⟨4294967294, 0, 10⟩, ⟨4294967295, 5, 20⟩, ⟨1, 10, 30⟩, ⟨0, 15, 40⟩, ⟨1, 20, 50⟩]

theorem BucketRing.queue_of_fiveBuckets :
    (0 : UInt32) < 2 ∧ ∃ fresh : BucketRing Nat, BucketRing.empty 2 = .ok fresh ∧
      (History.after BucketRing.offer fresh fiveBuckets).state.toList = [⟨0, 15, 40⟩, ⟨1, 20, 50⟩] ∧
      (History.after BucketRing.offer fresh fiveBuckets).evicted = [⟨4294967294, 0, 10⟩, ⟨4294967295, 5, 20⟩] := by
  refine ⟨by decide, ?_⟩
  rcases BucketRing.queue_of_attempts (α := Nat) (by decide : (0 : UInt32) < 2) with ⟨fresh, created, queue⟩
  have outcome : (BucketRing.empty 2).toOption.map (fun fresh =>
      (History.after BucketRing.offer fresh fiveBuckets).items) =
        some (fiveBuckets.eraseIdx 2) := by decide +kernel
  rcases queue fiveBuckets with ⟨listed, -, -, -, conserved, -⟩
  rw [created] at outcome
  have items := Option.some.inj outcome
  dsimp only at items listed conserved
  rw [items] at listed conserved
  have kept := listed.trans (by decide +kernel : _ = [⟨0, 15, 40⟩, ⟨1, 20, 50⟩])
  refine ⟨fresh, created, kept, ?_⟩
  rw [kept] at conserved
  exact List.append_cancel_right (conserved.trans (by decide +kernel))

end

theorem FeeStatistics.ledgers_ofFees (fees : List UInt64) (ledgers : UInt32) :
    (ofFees fees ledgers).ledgers = ledgers := by
  unfold ofFees
  split <;> rfl

namespace FeeWindow

/-- The window retains the last of the ledgers that it has accepted, and its statistics are theirs. -/
structure IsCurrent (retention : Nat) (history : History FeeWindow (Bucket (List UInt64)) Unit) : Prop where
  retains : history.state.Retains retention history.items
  consecutive : history.items.IsChain Bucket.Precedes

namespace IsCurrent

variable {retention : Nat} {history : History FeeWindow (Bucket (List UInt64)) Unit} {bucket : Bucket (List UInt64)}

theorem offer_cases (current : IsCurrent retention history) (bucket : Bucket (List UInt64)) :
    (∃ larger, history.state.offer bucket = (larger, .ok ()) ∧
      IsCurrent retention ⟨larger, history.accepted ++ [(bucket, ())]⟩ ∧
      ∀ newest ∈ history.items.getLast?, newest.Precedes bucket) ∨
    ∃ newest ∈ history.items.getLast?, ¬newest.Precedes bucket ∧
      history.state.offer bucket = (history.state, .error (.gap (newest.sequence + 1) bucket.sequence)) := by
  by_cases next : ∀ newest ∈ history.items.getLast?, newest.Precedes bucket
  · left
    rcases current.retains.offer current.consecutive next with ⟨larger, accepted, retains⟩
    refine ⟨larger, accepted, ⟨?_, ?_⟩, next⟩
    · rw [History.items_concat]
      exact retains
    · rw [History.items_concat]
      apply current.consecutive.append (List.isChain_singleton bucket)
      intro newest last first only
      cases only
      exact next newest last
  · right
    rcases not_forall₂.mp next with ⟨newest, last, gap⟩
    exact ⟨newest, last, gap, current.retains.offer_of_gap current.consecutive last gap⟩

theorem attempt (current : IsCurrent retention history) : IsCurrent retention (history.attempt offer bucket) := by
  rcases current.offer_cases bucket with ⟨larger, accepted, still, -⟩ | ⟨newest, -, -, refused⟩
  · rw [History.attempt, accepted]
    exact still
  · rw [History.attempt_of_error refused]
    exact current

theorem size_eq (current : IsCurrent retention history) :
    history.state.ring.size = min retention history.items.length := by
  rw [← BucketRing.length_toList, current.retains.toList, List.rtake, List.length_drop]
  omega

theorem statistics_eq (current : IsCurrent retention history) :
    history.state.statistics =
      FeeStatistics.ofFees ((history.items.rtake (min retention history.items.length)).flatMap Bucket.content)
        (UInt32.ofNat (min retention history.items.length)) := by
  rw [current.retains.statistics, current.size_eq, fees, current.retains.toList, rtake_min_length]

theorem latest?_eq (current : IsCurrent retention history) :
    history.state.latest? = history.items.getLast?.map Bucket.sequence := by
  rw [latest?, BucketRing.newest?_eq, current.retains.getLast?_toList]

end IsCurrent

/--
A fresh window, after any attempts: its statistics are those computed anew from the fees of the last ledgers that it has
accepted, as many as it retains, and blank before the first; its latest ledger is the last one accepted. A ledger is
refused just if it does not follow the last one accepted, and then the window is what it was before.
-/
theorem statistics_of_attempts {retention : UInt32} (positive : 0 < retention) :
    ∃ fresh, FeeWindow.empty retention = .ok fresh ∧
      ∀ attempts : List (Bucket (List UInt64)),
        let history := History.after offer fresh attempts
        let window := history.state
        let kept := min retention.toNat history.items.length
        window.statistics =
          FeeStatistics.ofFees ((history.items.rtake kept).flatMap Bucket.content) (UInt32.ofNat kept) ∧
        window.statistics.ledgers.toNat = kept ∧
        (history.items = [] → window.statistics = .blank 0) ∧
        window.latest? = history.items.getLast?.map Bucket.sequence ∧
        (∀ bucket, (∃ failure, (window.offer bucket).2 = .error failure) ↔
          ∃ newest ∈ history.items.getLast?, bucket.sequence ≠ newest.sequence + 1) ∧
        ∀ bucket failure, (window.offer bucket).2 = .error failure →
          (window.offer bucket).1 = window ∧
          (History.after offer fresh (attempts ++ [bucket])).state.statistics = window.statistics ∧
          (History.after offer fresh (attempts ++ [bucket])).state.latest? = window.latest? := by
  rcases retains_empty positive with ⟨fresh, created, retains⟩
  refine ⟨fresh, created, ?_⟩
  intro attempts history window kept
  have current : IsCurrent retention.toNat history :=
    History.invariant_after ⟨retains, .nil⟩ (fun current => current.attempt) attempts
  have statistics := current.statistics_eq
  refine ⟨statistics, ?_, ?_, current.latest?_eq, ?_, ?_⟩
  · have small : kept < UInt32.size := Nat.lt_of_le_of_lt (Nat.min_le_left _ _) retention.toNat_lt
    rw [statistics, FeeStatistics.ledgers_ofFees]
    exact UInt32.toNat_ofNat_of_lt' small
  · intro nothing
    rw [statistics, nothing]
    simp [FeeStatistics.ofFees]
  · intro bucket
    rcases current.offer_cases bucket with ⟨larger, accepted, -, next⟩ | ⟨newest, last, gap, refused⟩
    · apply iff_of_false
      · rintro ⟨failure, refused⟩
        rw [accepted] at refused
        cases refused
      · rintro ⟨newest, last, apart⟩
        exact apart (next newest last)
    · exact iff_of_true ⟨_, congrArg Prod.snd refused⟩ ⟨newest, last, gap⟩
  · intro bucket failure refused
    rcases current.offer_cases bucket with ⟨larger, accepted, -⟩ | ⟨newest, -, -, unchanged⟩
    · rw [accepted] at refused
      cases refused
    · have same : History.after offer fresh (attempts ++ [bucket]) = history := by
        rw [History.after_concat]
        exact History.attempt_of_error unchanged
      rw [same]
      exact ⟨congrArg Prod.fst unchanged, rfl, rfl⟩

/-- Three ledgers of which the window retains two, and one after a gap. -/
def fourFees : List (Bucket (List UInt64)) := [⟨7, 0, [1000]⟩, ⟨8, 5, [5, 5]⟩, ⟨10, 10, [1]⟩, ⟨9, 15, [7]⟩]

theorem statistics_of_fourFees :
    (0 : UInt32) < 2 ∧ ∃ fresh, FeeWindow.empty 2 = .ok fresh ∧
      let window := (History.after offer fresh fourFees).state
      window.statistics = FeeStatistics.ofFees [5, 5, 7] 2 ∧
      (window.statistics.minimum, window.statistics.maximum, window.statistics.mode) = (5, 7, 5) ∧
      window.statistics.percentiles = [(10, 5), (20, 5), (30, 5), (40, 5), (50, 5), (60, 5), (70, 7), (80, 7), (90, 7),
        (95, 7), (99, 7)] ∧
      (window.statistics.transactions, window.statistics.ledgers) = (3, 2) ∧ window.latest? = some 9 := by
  refine ⟨by decide, ?_⟩
  rcases statistics_of_attempts (by decide : (0 : UInt32) < 2) with ⟨fresh, created, current⟩
  have outcome : (FeeWindow.empty 2).toOption.map (fun fresh => (History.after offer fresh fourFees).items) =
      some (fourFees.eraseIdx 2) := by decide +kernel
  rcases current fourFees with ⟨statistics, -, -, latest, -⟩
  rw [created] at outcome
  have items := Option.some.inj outcome
  dsimp only at items statistics latest
  rw [items] at statistics latest
  have fees : ((fourFees.eraseIdx 2).rtake 2).flatMap Bucket.content = [5, 5, 7] := by decide +kernel
  have computed := statistics.trans (congrArg (FeeStatistics.ofFees · 2) fees)
  have figures : FeeStatistics.ofFees [5, 5, 7] 2 = ⟨7, 5, 5, 5, 5, 5, 5, 5, 5, 7, 7, 7, 7, 7, 3, 2⟩ := by
    rw [FeeStatistics.ofFees, FeeStatistics.mergeSort_of_ascending (by decide)]
    decide
  refine ⟨fresh, created, computed, ?_, ?_, ?_, latest.trans (by decide +kernel)⟩
  · rw [computed, figures]
  · rw [computed, figures]
    rfl
  · rw [computed, figures]

end FeeWindow

end LedgerService

import LedgerService.Proofs.Traffic.Journey

/-!
# Watches of the governors

A governor watches a call through the task that waits at it. It gives up on a call at most as often as it comes to
watch it (`CallLaw.watches`), and only if it has a limit (`CallLaw.limited`).
-/

namespace LedgerService

variable {σ : Type}

namespace Chain

/-- The number of tasks of a chain that wait at a governor. -/
def watched (governor : Nat) (chain : Chain σ) : Nat := (chain.waits.map Wait.governor).count governor

variable {chain : Chain σ} {position : Nat} {wait : Wait}

/-- The waits of a chain that is cut, but for the one at which it is cut, are those of its parts. -/
theorem watched_cut (found : chain.waits[position]? = some wait) (ending : Ending) (governor : Nat) :
    chain.watched governor =
      [wait.governor].count governor +
        ((chain.outer position wait ending).watched governor + (chain.inner position).watched governor) := by
  simp only [watched, outer, inner]
  conv_lhs => rw [waits_split found]
  rw [List.map_append, List.map_cons, List.count_append, count_cons_split _ wait.governor]
  omega

theorem watched_warned (found : chain.waits[position]? = some wait) (governor : Nat) :
    Chain.watched governor { chain with waits := chain.waits.set position { wait with warnAt := none } } =
      chain.watched governor := by
  have same : (chain.waits.set position { wait with warnAt := none }).map Wait.governor =
      chain.waits.map Wait.governor :=
    map_set_of_same found rfl
  rw [watched, watched, same]

end Chain

namespace Move

variable {traffic left : Traffic σ} {chain : Chain σ} {facts : List CallFact} {parts : List (Chain σ)}

/-- A governor that gives up on a call no longer watches it. -/
theorem watches (move : Move traffic chain facts left parts) (governor : Nat) :
    facts.count (.expired governor) + (parts.map (Chain.watched governor)).sum +
        (parts.map fun part => part.ahead.count (.governor governor)).sum ≤
      chain.watched governor + chain.ahead.count (.governor governor) := by
  cases move with
  | refuse focus found full => simp [Chain.count_returned_of_ne, Chain.watched, Chain.ahead]
  | missGovernor focus missing =>
      simp only [Chain.ahead, focus, List.map_singleton, List.sum_singleton, List.count_nil, Nat.zero_add]
      exact Nat.add_le_add_left ((List.sublist_cons_self _ _).count_le _) _
  | govern focus found =>
      simp only [Chain.watched, Chain.ahead, focus, List.map_cons, List.map_nil, List.sum_cons, List.sum_nil,
        List.count_nil, List.count_cons, beq_iff_eq, Layer.governor.injEq]
      omega
  | finish focus => simp [Chain.count_returned_of_ne, Chain.watched, Chain.ahead]
  | discharge focus ahead =>
      simp [Chain.count_returned_of_ne, count_noted_of_ne, Chain.watched, Chain.ahead, focus]
  | resume focus free outside =>
      simp [Chain.count_returned_of_ne, Chain.watched, Chain.ahead, focus, outside, List.count_cons]
  | warn found due reached =>
      simp only [List.map_singleton, List.sum_singleton, Chain.watched_warned found]
      simp [Chain.ahead]
  | @expire position wait _ governor found due reached known =>
      rw [chain.outer_returned position wait (.answered (.error governor.refusal)), List.count_append,
        Chain.count_returned_of_ne _ (by simp), Chain.watched_cut found (.answered (.error governor.refusal))]
      simp only [Chain.ahead, Chain.outer, Chain.inner, List.map_cons, List.map_nil, List.sum_cons, List.sum_nil,
        List.count_nil, List.count_cons, beq_iff_eq, CallFact.expired.injEq]
      omega
  | _ => simp [Chain.watched, Chain.ahead, *]

end Move

namespace Withdrawal

variable {traffic left : Traffic σ} {chain : Chain σ} {facts : List CallFact} {parts : List (Chain σ)}

theorem watches (withdrawal : Withdrawal traffic chain facts left parts) (governor : Nat) :
    facts.count (.expired governor) + (parts.map (Chain.watched governor)).sum +
        (parts.map fun part => part.ahead.count (.governor governor)).sum ≤
      chain.watched governor + chain.ahead.count (.governor governor) := by
  cases withdrawal with
  | vanish alone =>
      rw [count_filterMap_returned_of_ne _ (by simp)]
      simp
  | detach outside =>
      rw [count_filterMap_returned_of_ne _ (by simp)]
      simp [Chain.watched, Chain.ahead, outside]

/-- A chain whose caller goes away means nothing else for the call than that something is done. -/
theorem not_mem (withdrawal : Withdrawal traffic chain facts left parts) {fact : CallFact}
    (other : ∀ gate, fact ≠ .returned gate) : fact ∉ facts := by
  cases withdrawal with
  | vanish => exact List.count_eq_zero.mp (count_filterMap_returned_of_ne _ other)
  | detach => exact List.count_eq_zero.mp (count_filterMap_returned_of_ne _ other)

theorem waits_subset (withdrawal : Withdrawal traffic chain facts left parts) :
    ∀ part ∈ parts, part.waits ⊆ chain.waits := by
  cases withdrawal with
  | vanish => simp
  | detach outside => simp [outside]

end Withdrawal

namespace Traffic.Serves

variable {switchboard : Switchboard σ} {traffic : Traffic σ}

theorem governor_of_getElem? (serves : traffic.Serves switchboard) {index : Nat} {governor : Governor}
    (found : traffic.governors[index]? = some governor) :
    ∃ original, (switchboard.outermost.governor :: switchboard.enclosures.map Enclosure.governor)[index]? =
      some original ∧ governor.design = original.design := by
  have same := congrArg (·[index]?) serves.governors
  simp only [List.getElem?_map, found, Option.map_some] at same
  rcases Option.map_eq_some_iff.mp same.symm with ⟨original, known, agrees⟩
  exact ⟨original, known, agrees.symm⟩

end Traffic.Serves

/-- The governor at a position has a limit. -/
def Switchboard.Limits (switchboard : Switchboard σ) (index : Nat) : Prop :=
  ∃ governor, (switchboard.outermost.governor :: switchboard.enclosures.map Enclosure.governor)[index]? =
    some governor ∧ governor.hasLimit = true

/-- A chain's waits that can come to an end wait at governors with a limit. -/
def Chain.Limited (switchboard : Switchboard σ) (chain : Chain σ) : Prop :=
  ∀ wait ∈ chain.waits, wait.expireAt.isSome → switchboard.Limits wait.governor

namespace Move

variable {switchboard : Switchboard σ} {traffic left : Traffic σ} {chain : Chain σ} {facts : List CallFact}
  {parts : List (Chain σ)}

theorem limited (move : Move traffic chain facts left parts) (serves : traffic.Serves switchboard)
    (limited : chain.Limited switchboard) : ∀ part ∈ parts, part.Limited switchboard := by
  cases move with
  | govern focus found =>
      rw [List.forall_mem_singleton]
      intro wait mem expires
      rcases List.mem_cons.mp mem with rfl | mem
      · rcases serves.governor_of_getElem? found with ⟨original, known, design⟩
        refine ⟨original, known, ?_⟩
        have limits := congrArg Governor.limit design
        simp only [Governor.design, Governor.idle] at limits
        simpa [Governor.expireAt?, Governor.hasLimit, limits] using expires
      · exact limited wait mem expires
  | resume focus free outside =>
      rw [List.forall_mem_singleton]
      intro wait mem expires
      exact limited wait (outside ▸ List.mem_cons_of_mem _ mem) expires
  | answer => simp
  | warn found due reached =>
      rw [List.forall_mem_singleton]
      intro wait mem expires
      rcases List.mem_or_eq_of_mem_set mem with mem | rfl
      · exact limited wait mem expires
      · have old := limited _ (List.mem_of_getElem? found)
        exact old expires
  | expire found due reached known =>
      intro part mem wait waits expires
      rcases List.mem_pair.mp mem with rfl | rfl
      · exact limited wait (List.mem_of_mem_drop waits) expires
      · exact limited wait (List.mem_of_mem_take waits) expires
  | _ =>
      rw [List.forall_mem_singleton]
      exact limited

/-- Only a governor with a limit gives up on a call. -/
theorem limits_of_expired (move : Move traffic chain facts left parts) (limited : chain.Limited switchboard)
    {index : Nat} (gaveUp : .expired index ∈ facts) : switchboard.Limits index := by
  cases move with
  | refuse => simp [Chain.not_mem_returned] at gaveUp
  | finish => simp [Chain.not_mem_returned] at gaveUp
  | discharge => simp [Chain.not_mem_returned, not_mem_noted] at gaveUp
  | resume => simp [Chain.not_mem_returned] at gaveUp
  | @expire position wait _ governor found due reached known =>
      rw [chain.outer_returned position wait (.answered (.error governor.refusal))] at gaveUp
      have same : index = wait.governor := by simpa [Chain.not_mem_returned] using gaveUp
      rw [same]
      exact limited wait (List.mem_of_getElem? found) (by simp [due])
  | _ => simp at gaveUp

end Move

namespace CallLaw

variable {switchboard : Switchboard σ} {given : CallProperty σ}

/-- A governor gives up on a call at most as often as the call comes to it, and not while it watches the call. -/
theorem watches (governor : Nat) :
    CallLaw switchboard (fun _ _ => true) given fun _ record chains =>
      record.facts.count (.expired governor) + (chains.map (Chain.watched governor)).sum +
          (chains.map fun chain => chain.ahead.count (.governor governor)).sum ≤
        (switchboard.layers record.method).count (.governor governor) where
  call now caller method params := by simp [Chain.watched, Chain.ahead]
  move serves _ holds move := by
    have balance := move.watches governor
    simp only [CallRecord.add, List.count_append, List.map_append, List.map_cons, List.sum_append, List.sum_cons]
      at holds ⊢
    omega
  withdraw _ _ _ holds withdrawal := by
    have balance := withdrawal.watches governor
    simp only [CallRecord.add, List.count_append, List.map_append, List.map_cons, List.sum_append, List.sum_cons]
      at holds ⊢
    omega
  elapse _ _ _ holds := holds

theorem limited :
    CallLaw switchboard (fun _ _ => true) given fun _ record chains =>
      (∀ index, .expired index ∈ record.facts → switchboard.Limits index) ∧
        ∀ chain ∈ chains, chain.Limited switchboard where
  call now caller method params := by simp [Chain.Limited]
  move serves _ holds move := by
    simp only [List.forall_mem_append, List.forall_mem_cons] at holds ⊢
    rcases holds with ⟨known, early, mine, late⟩
    refine ⟨?_, early, move.limited serves mine, late⟩
    intro index gaveUp
    rcases List.mem_append.mp gaveUp with new | old
    · exact move.limits_of_expired mine new
    · exact known index old
  withdraw _ _ _ holds withdrawal := by
    simp only [List.forall_mem_append, List.forall_mem_cons] at holds ⊢
    rcases holds with ⟨known, early, mine, late⟩
    refine ⟨?_, early, ?_, late⟩
    · intro index gaveUp
      rcases List.mem_append.mp gaveUp with new | old
      · exact absurd new (withdrawal.not_mem (by simp))
      · exact known index old
    · intro part mem wait waits
      exact mine wait (withdrawal.waits_subset part mem waits)
  elapse _ _ _ holds := holds

end CallLaw

end LedgerService

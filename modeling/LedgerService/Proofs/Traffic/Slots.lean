import LedgerService.Proofs.Traffic.Calls

/-!
# Places at the gates

A gate's gauge against the tasks of the traffic. A task holds a place at a gate for as long as it has the duty to
leave the gate, whether anyone still waits for it or not. `Chronicle.holds_of_run` says that every gate's gauge is
the number of the places held, and never exceeds the limit of the gate.

A call against its own tasks: `CallLaw.engaged` says that a call is behind a gate just as long as one of its tasks
holds a place there and has something left to do behind it.
-/

namespace LedgerService

variable {σ : Type}

/-- The numbers of a gate when so many places are taken. -/
structure Gate.Holds (gate : Gate) (places : Nat) : Prop where
  gauge : gate.gauge = places
  inFlight : gate.inFlight.toNat = places
  withinLimit : places ≤ gate.limit.toNat

namespace Gate.Holds

variable {gate : Gate} {places : Nat}

theorem idle (resource : String) (limit : UInt64) (meters : Option GateMeters) :
    (Gate.idle resource limit meters).Holds 0 :=
  ⟨rfl, rfl, Nat.zero_le _⟩

theorem letIn (holds : gate.Holds places) (room : gate.isFull = false) : gate.letIn.Holds (places + 1) := by
  have below : gate.inFlight.toNat < gate.limit.toNat := by
    simpa [isFull, UInt64.le_iff_toNat_le] using room
  have bound := gate.limit.toNat_lt
  refine ⟨?_, ?_, ?_⟩
  · simp [Gate.letIn, Gate.countIn, Gate.moveGauge, holds.gauge]
  · simp only [Gate.letIn, Gate.countIn, Gate.moveGauge]
    rw [UInt64.toNat_add, holds.inFlight]
    have := holds.inFlight
    simp only [UInt64.reduceToNat]
    omega
  · have := holds.inFlight
    simp only [Gate.letIn, Gate.countIn, Gate.moveGauge]
    omega

theorem turnAway (holds : gate.Holds places) : gate.turnAway.Holds places :=
  ⟨holds.gauge, holds.inFlight, holds.withinLimit⟩

theorem release (holds : gate.Holds (places + 1)) : gate.release.Holds places := by
  have one : (1 : UInt64) ≤ gate.inFlight := by
    rw [UInt64.le_iff_toNat_le, holds.inFlight]
    simp
  refine ⟨?_, ?_, ?_⟩
  · have := holds.gauge
    simp only [Gate.release, Gate.countOut, Gate.moveGauge]
    omega
  · simp only [Gate.release, Gate.countOut, Gate.moveGauge]
    rw [UInt64.toNat_sub_of_le _ _ one, holds.inFlight]
    simp
  · have := holds.withinLimit
    simp only [Gate.release, Gate.countOut, Gate.moveGauge]
    omega

end Gate.Holds

theorem map_set_of_same {α β : Type} {view : α → β} {elements : List α} {position : Nat} {old new : α}
    (found : elements[position]? = some old) (same : view new = view old) :
    (elements.set position new).map view = elements.map view := by
  rcases List.getElem?_eq_some_iff.mp found with ⟨bound, rfl⟩
  rw [List.map_set, same, ← List.getElem_map (f := view) (h := by simpa using bound), List.set_getElem_self]

theorem count_cons_split {α : Type} [BEq α] (element first : α) (rest : List α) :
    (first :: rest).count element = [first].count element + rest.count element := by
  rw [← List.count_append, List.singleton_append]

namespace Chain

/-- All that the tasks of a chain still have to do when they end. -/
def owed (chain : Chain σ) : List Duty := chain.duties ++ chain.waits.flatMap Wait.duties

/-- The duties of the tasks of a chain behind which something is still to be done. -/
def unreturned (chain : Chain σ) : List Duty := chain.outstanding ++ chain.waits.flatMap Wait.duties

/-- The number of places that the tasks of a chain hold at a gate. -/
def places (gate : Nat) (chain : Chain σ) : Nat := chain.owed.count (.leave gate)

/-- The number of places at a gate behind which a chain has something left to do. -/
def engaged (gate : Nat) (chain : Chain σ) : Nat := chain.unreturned.count (.leave gate)

/-- The layers that a chain has not passed. -/
def ahead (chain : Chain σ) : List Layer :=
  match chain.focus with
  | .entering layers _ => layers
  | _ => []

variable {chain : Chain σ} {position : Nat} {wait : Wait}

theorem waits_split (found : chain.waits[position]? = some wait) :
    chain.waits = chain.waits.take position ++ wait :: chain.waits.drop (position + 1) :=
  eq_take_append_cons_drop found

/-- A chain that is cut owes what its parts owe. -/
theorem count_owed_cut (found : chain.waits[position]? = some wait) (ending : Ending) (duty : Duty) :
    (chain.outer position wait ending).owed.count duty + (chain.inner position).owed.count duty =
      chain.owed.count duty := by
  simp only [owed, outer, inner, List.count_append]
  conv_rhs => rw [waits_split found]
  simp only [List.flatMap_append, List.flatMap_cons, List.count_append]
  omega

theorem duties_warned (found : chain.waits[position]? = some wait) :
    (chain.waits.set position { wait with warnAt := none }).flatMap Wait.duties =
      chain.waits.flatMap Wait.duties := by
  have same : (chain.waits.set position { wait with warnAt := none }).map Wait.duties =
      chain.waits.map Wait.duties :=
    map_set_of_same found rfl
  rw [List.flatMap_def, List.flatMap_def, same]

end Chain

namespace Traffic

/-- The gates of the traffic have so many places taken. -/
def Holds (traffic : Traffic σ) (places : Nat → Nat) : Prop :=
  ∀ (index : Nat) (gate : Gate), traffic.gates[index]? = some gate → gate.Holds (places index)

namespace Holds

variable {traffic : Traffic σ} {places others : Nat → Nat}

theorem of_eq (holds : traffic.Holds places) (same : ∀ index, others index = places index) :
    traffic.Holds others := by
  intro index gate found
  rw [same index]
  exact holds index gate found

theorem adjustGate (holds : traffic.Holds places) {index : Nat} {change : Gate → Gate}
    (changed : ∀ gate, gate.Holds (places index) → traffic.gates[index]? = some gate →
      (change gate).Holds (others index))
    (same : ∀ other, other ≠ index → others other = places other) :
    (traffic.adjustGate index change).Holds others := by
  intro other gate found
  simp only [Traffic.adjustGate, List.getElem?_modify] at found
  by_cases here : index = other
  · subst here
    rcases Option.map_eq_some_iff.mp found with ⟨old, was, rfl⟩
    rw [if_pos rfl]
    exact changed old (holds index old was) was
  · simp only [if_neg here, id_map'] at found
    rw [same other (Ne.symm here)]
    exact holds other gate found

theorem discharge {duty : Duty} (holds : traffic.Holds fun gate => [duty].count (.leave gate) + others gate)
    (ending : Ending) : (traffic.discharge ending duty).Holds others := by
  cases duty with
  | leave index =>
      apply holds.adjustGate
      · intro gate held _
        apply Gate.Holds.release
        simpa [Nat.add_comm] using held
      · intro other elsewhere
        simp [Ne.symm elsewhere]
  | record endpoint =>
      have kept : traffic.Holds others := holds.of_eq (by simp)
      cases labelled : ending.status? with
      | none => simpa [Traffic.discharge, labelled] using kept
      | some status =>
          simp only [Traffic.discharge, labelled]
          exact kept

theorem abandon {duties : List Duty} (holds : traffic.Holds fun gate => duties.count (.leave gate) + others gate) :
    (traffic.abandon duties).Holds others := by
  induction duties generalizing traffic with
  | nil => exact holds.of_eq (by simp)
  | cons duty duties ih =>
      apply ih
      apply discharge
      apply holds.of_eq
      intro gate
      rw [count_cons_split _ duty duties, Nat.add_assoc]

theorem report (holds : traffic.Holds places) (caller : Option String) (outcome : Outcome) :
    (traffic.report caller outcome).Holds places := by
  cases caller <;> exact holds

/-- A move takes and frees places at the gates just as the tasks of the chain do. -/
theorem of_move {chain : Chain σ} {facts : List CallFact} {left : Traffic σ} {parts : List (Chain σ)}
    (holds : traffic.Holds fun gate => chain.places gate + others gate)
    (move : Move traffic chain facts left parts) :
    left.Holds fun gate => (parts.map (Chain.places gate)).sum + others gate := by
  cases move with
  | letIn focus found room =>
      apply holds.adjustGate
      · intro gate held known
        rcases Option.some.inj (found.symm.trans known) with rfl
        have entered := held.letIn room
        simpa [Chain.places, Chain.owed, Nat.add_right_comm] using entered
      · intro other elsewhere
        simp [Chain.places, Chain.owed, Ne.symm elsewhere]
  | refuse focus found full =>
      apply holds.adjustGate
      · intro gate held _
        simpa [Chain.places, Chain.owed] using held.turnAway
      · intro other _
        simp [Chain.places, Chain.owed]
  | discharge focus ahead =>
      apply Holds.discharge
      apply holds.of_eq
      intro gate
      simp only [Chain.places, Chain.owed, ahead, List.map_singleton, List.sum_singleton, List.cons_append]
      rw [count_cons_split _ _ (_ ++ _), Nat.add_assoc]
  | resume focus free outside =>
      apply holds.of_eq
      simp [Chain.places, Chain.owed, free, outside]
  | answer focus free alone =>
      apply Holds.report
      apply holds.of_eq
      simp [Chain.places, Chain.owed, free, alone]
  | warn found due reached =>
      apply holds.of_eq
      simp [Chain.places, Chain.owed, Chain.duties_warned found]
  | expire found due reached known =>
      apply holds.of_eq
      intro gate
      simp only [Chain.places, List.map_cons, List.map_nil, List.sum_cons, List.sum_nil, Nat.add_zero]
      rw [Chain.count_owed_cut found]
  | _ =>
      apply holds.of_eq
      simp [Chain.places, Chain.owed]

/-- A chain whose caller goes away gives up the places of its outermost task and no others. -/
theorem of_withdrawal {chain : Chain σ} {facts : List CallFact} {left : Traffic σ} {parts : List (Chain σ)}
    (holds : traffic.Holds fun gate => chain.places gate + others gate)
    (withdrawal : Withdrawal traffic chain facts left parts) :
    left.Holds fun gate => (parts.map (Chain.places gate)).sum + others gate := by
  cases withdrawal with
  | vanish alone =>
      apply Holds.report
      apply Holds.abandon
      apply holds.of_eq
      simp [Chain.places, Chain.owed, alone]
  | detach outside =>
      apply Holds.report
      apply Holds.abandon
      apply holds.of_eq
      intro gate
      simp only [Chain.places, Chain.owed, outside, List.map_singleton, List.sum_singleton, List.flatMap_append,
        List.flatMap_singleton, List.count_append]
      omega

end Holds

theorem replaceChain_split {traffic left : Traffic σ} {index : Nat} {chain : Chain σ}
    (found : traffic.chains[index]? = some chain) (chains : left.chains = traffic.chains) (parts : List (Chain σ)) :
    ∃ before after, traffic.chains = before ++ chain :: after ∧
      (left.replaceChain index parts).chains = before ++ (parts ++ after) := by
  refine ⟨traffic.chains.take index, traffic.chains.drop (index + 1), eq_take_append_cons_drop found, ?_⟩
  simp [replaceChain, chains]

end Traffic

namespace Chronicle

variable {switchboard : Switchboard σ} {chronicle next : Chronicle σ} {event : SwitchboardEvent σ}

/-- The gates have as many places taken as the tasks of all chains hold. -/
def Holds (chronicle : Chronicle σ) : Prop :=
  chronicle.traffic.Holds fun gate => (chronicle.traffic.chains.map (Chain.places gate)).sum

theorem Holds.of_note {index owner : Nat} {chain : Chain σ} {left : Traffic σ} {facts : List CallFact}
    {parts : List (Chain σ)} (holds : chronicle.Holds) (found : chronicle.traffic.chains[index]? = some chain)
    (chains : left.chains = chronicle.traffic.chains)
    (kept : ∀ {others : Nat → Nat}, (chronicle.traffic.Holds fun gate => chain.places gate + others gate) →
      left.Holds fun gate => (parts.map (Chain.places gate)).sum + others gate) :
    (chronicle.note owner ⟨index, facts, parts.length⟩ (left.replaceChain index parts)).Holds := by
  rcases Traffic.replaceChain_split found chains parts with ⟨before, after, split, replaced⟩
  have around : chronicle.traffic.Holds fun gate => chain.places gate +
      ((before.map (Chain.places gate)).sum + (after.map (Chain.places gate)).sum) := by
    apply Traffic.Holds.of_eq holds
    simp [split, Nat.add_left_comm]
  have cut : (left.replaceChain index parts).Holds _ := kept around
  apply cut.of_eq
  simp [note, replaced, Nat.add_left_comm]

theorem Holds.of_step (holds : chronicle.Holds) (step : Step switchboard chronicle event next) : next.Holds := by
  cases step with
  | call caller method params =>
      apply Traffic.Holds.of_eq holds
      simp [enroll, Chain.places, Chain.owed]
  | move found owned move => exact holds.of_note found move.chains_eq fun around => around.of_move move
  | withdraw found owned waiting withdrawal =>
      exact holds.of_note found withdrawal.chains_eq fun around => around.of_withdrawal withdrawal
  | elapse => exact holds
  | disturb => exact holds

/-- After every run, each gauge is the number of the places held at the gate, and within the limit. -/
theorem holds_of_run {surroundings : σ} {events : List (SwitchboardEvent σ)}
    (idle : ∀ gate ∈ (switchboard.idleTraffic surroundings).gates, gate.design = gate)
    (run : (start switchboard surroundings).run? switchboard events = some chronicle) : chronicle.Holds := by
  have holds : (start switchboard surroundings).Holds := by
    intro index gate found
    rw [← idle gate (List.mem_of_getElem? found)]
    exact Gate.Holds.idle gate.resource gate.limit gate.meters
  exact (invariant_of_run (orderly_start switchboard surroundings) holds (fun _ holds step => holds.of_step step)
    run).2

end Chronicle

namespace Chain

variable {chain : Chain σ} {fact : CallFact}

/-- The place that a task is giving up, and those behind which something is to be done. -/
theorem count_returned (chain : Chain σ) (gate : Nat) :
    chain.returned.count (.returned gate) + chain.outstanding.count (.leave gate) =
      chain.duties.count (.leave gate) := by
  unfold returned outstanding
  split
  · rename_i own duties focus ahead
    rw [ahead, count_cons_split _ (Duty.leave own)]
    by_cases same : own = gate <;> simp [same]
  · simp

theorem returned_add_engaged (chain : Chain σ) (gate : Nat) :
    chain.returned.count (.returned gate) + chain.engaged gate = chain.places gate := by
  simp only [engaged, unreturned, places, owed, List.count_append, ← count_returned chain gate]
  omega

theorem engaged_le_places (chain : Chain σ) (gate : Nat) : chain.engaged gate ≤ chain.places gate := by
  rw [← returned_add_engaged]
  exact Nat.le_add_left _ _

/-- Only a task on its way out has less to do behind a gate than it has places there. -/
theorem engaged_of_going (going : ∀ ending, chain.focus ≠ .leaving ending) (gate : Nat) :
    chain.engaged gate = chain.places gate := by
  rw [← returned_add_engaged]
  unfold returned
  split
  · rename_i ending _ _ focus _
    exact absurd focus (going ending)
  · simp

/-- Between two steps, something is still to be done behind every place. -/
theorem engaged_of_resting (resting : chain.isResting = true) (gate : Nat) : chain.engaged gate = chain.places gate := by
  have same : chain.outstanding = chain.duties := by
    unfold isResting at resting
    unfold outstanding
    split at resting <;> simp_all
  simp [engaged, unreturned, places, owed, same]

theorem engaged_of_leaving {ending : Ending} {duty : Duty} {duties : List Duty}
    (focus : chain.focus = .leaving ending) (ahead : chain.duties = duty :: duties) (gate : Nat) :
    chain.engaged gate = Chain.places gate { chain with duties } := by
  cases duty with
  | leave own => simp [engaged, unreturned, outstanding, focus, ahead, places, owed]
  | record endpoint => simp [engaged, unreturned, outstanding, focus, ahead, places, owed]

/-- A chain that is cut has to do behind a gate what its parts have to do. -/
theorem engaged_cut {position : Nat} {wait : Wait} (found : chain.waits[position]? = some wait) (ending : Ending)
    (gate : Nat) :
    (chain.outer position wait ending).places gate + (chain.inner position).engaged gate = chain.engaged gate := by
  simp only [places, engaged, unreturned, owed, outer, List.count_append]
  conv_rhs => rw [waits_split found]
  simp only [inner, outstanding, List.flatMap_append, List.flatMap_cons, List.count_append]
  omega

theorem count_returned_of_ne (chain : Chain σ) (other : ∀ gate, fact ≠ .returned gate) :
    chain.returned.count fact = 0 := by
  unfold returned
  split
  · rename_i gate _ _ _
    simp [Ne.symm (other gate)]
  · rfl

theorem not_mem_returned (chain : Chain σ) (other : ∀ gate, fact ≠ .returned gate) : fact ∉ chain.returned :=
  List.count_eq_zero.mp (chain.count_returned_of_ne other)

theorem outer_returned (chain : Chain σ) (position : Nat) (wait : Wait) (ending : Ending) :
    (wait.duties.head?.bind Duty.returned).toList = (chain.outer position wait ending).returned := by
  unfold outer returned
  rcases wait.duties with _ | ⟨_ | _, _⟩ <;> rfl

end Chain

theorem count_noted_of_ne {fact : CallFact} (duty : Duty) (ending : Ending)
    (other : ∀ endpoint status, fact ≠ .recorded endpoint status) : (duty.noted ending).count fact = 0 := by
  cases duty with
  | leave gate => rfl
  | record endpoint =>
      cases labelled : ending.status? with
      | none => simp [Duty.noted, labelled]
      | some status => simp [Duty.noted, labelled, Ne.symm (other endpoint status)]

theorem not_mem_noted {fact : CallFact} (duty : Duty) (ending : Ending)
    (other : ∀ endpoint status, fact ≠ .recorded endpoint status) : fact ∉ duty.noted ending :=
  List.count_eq_zero.mp (count_noted_of_ne duty ending other)

theorem count_filterMap_returned (duties : List Duty) (gate : Nat) :
    (duties.filterMap Duty.returned).count (.returned gate) = duties.count (.leave gate) := by
  induction duties with
  | nil => rfl
  | cons duty duties ih =>
      cases duty with
      | leave own => by_cases same : own = gate <;> simp [Duty.returned, same, ih]
      | record endpoint =>
          rw [List.filterMap_cons_none rfl, ih]
          simp

theorem count_filterMap_returned_of_ne {fact : CallFact} (duties : List Duty)
    (other : ∀ gate, fact ≠ .returned gate) : (duties.filterMap Duty.returned).count fact = 0 := by
  rw [List.count_eq_zero]
  intro mem
  rcases List.mem_filterMap.mp mem with ⟨duty, -, same⟩
  cases duty with
  | leave gate => exact other gate (Option.some.inj same).symm
  | record endpoint => contradiction

namespace Move

variable {traffic left : Traffic σ} {chain : Chain σ} {facts : List CallFact} {parts : List (Chain σ)}

/-- A call gets behind a gate when the gate lets it in, and is back when what lies behind is done. -/
theorem engaged (move : Move traffic chain facts left parts) (gate : Nat) :
    facts.count (.admitted gate) + chain.engaged gate =
      facts.count (.returned gate) + (parts.map (Chain.engaged gate)).sum := by
  cases move with
  | refuse focus found full =>
      rw [chain.engaged_of_going (by simp [focus])]
      simp only [List.count_append, List.map_singleton, List.sum_singleton]
      rw [Chain.count_returned_of_ne _ (by simp), Nat.add_right_comm (List.count _ (Chain.returned _)),
        Chain.returned_add_engaged]
      simp [Chain.places, Chain.owed]
  | letIn focus found room =>
      rw [chain.engaged_of_going (by simp [focus])]
      simp only [List.map_singleton, List.sum_singleton]
      rw [Chain.engaged_of_going (by simp)]
      simp only [Chain.places, Chain.owed, List.cons_append]
      rw [count_cons_split _ (Duty.leave _)]
      simp [List.count_singleton]
  | finish focus =>
      rw [chain.engaged_of_going (by simp [focus])]
      simp only [List.map_singleton, List.sum_singleton]
      rw [Chain.count_returned_of_ne _ (by simp), Chain.returned_add_engaged]
      simp [Chain.places, Chain.owed]
  | discharge focus ahead =>
      rw [chain.engaged_of_leaving focus ahead]
      simp only [List.count_append, List.map_singleton, List.sum_singleton]
      rw [Chain.count_returned_of_ne _ (by simp), count_noted_of_ne _ _ (by simp), count_noted_of_ne _ _ (by simp),
        Nat.add_zero, Nat.add_zero, Chain.returned_add_engaged, Nat.zero_add]
  | resume focus free outside =>
      simp only [List.map_singleton, List.sum_singleton]
      rw [Chain.count_returned_of_ne _ (by simp), Chain.returned_add_engaged]
      simp [Chain.engaged, Chain.unreturned, Chain.outstanding, Chain.places, Chain.owed, free, outside]
  | answer focus free alone => simp [Chain.engaged, Chain.unreturned, Chain.outstanding, free, alone]
  | warn found due reached =>
      simp only [Chain.engaged, Chain.unreturned, List.map_singleton, List.sum_singleton]
      rw [Chain.duties_warned found]
      simp [Chain.outstanding]
  | @expire position wait _ governor found due reached known =>
      simp only [List.count_append, List.map_cons, List.map_nil, List.sum_cons, List.sum_nil]
      rw [chain.outer_returned position wait (.answered (.error governor.refusal)),
        Chain.count_returned_of_ne _ (by simp), ← Chain.engaged_cut found (.answered (.error governor.refusal)),
        ← Chain.returned_add_engaged]
      simp [Nat.add_assoc]
  | _ =>
      rw [chain.engaged_of_going (by simp [*])]
      simp only [List.map_singleton, List.sum_singleton]
      rw [Chain.engaged_of_going (by simp)]
      simp [Chain.places, Chain.owed]

/-- A gate that a call comes to is no longer ahead of it. -/
theorem entrances (move : Move traffic chain facts left parts) (gate : Nat) :
    facts.count (.admitted gate) + facts.count (.refused gate) +
      (parts.map fun part => part.ahead.count (.gate gate)).sum ≤ chain.ahead.count (.gate gate) := by
  cases move with
  | refuse focus found full =>
      simp [Chain.count_returned_of_ne, Chain.ahead, focus, List.count_cons]
  | letIn focus found room => simp [Chain.ahead, focus, List.count_cons, Nat.add_comm]
  | finish focus => simp [Chain.count_returned_of_ne, Chain.ahead]
  | discharge focus ahead => simp [Chain.count_returned_of_ne, count_noted_of_ne, Chain.ahead, focus]
  | resume focus free outside => simp [Chain.count_returned_of_ne, Chain.ahead]
  | @expire position wait _ governor found due reached known =>
      rw [chain.outer_returned position wait (.answered (.error governor.refusal)), List.count_append,
        List.count_append, Chain.count_returned_of_ne _ (by simp), Chain.count_returned_of_ne _ (by simp)]
      simp [Chain.ahead, Chain.outer, Chain.inner]
  | missGate focus missing =>
      simp only [Chain.ahead, focus, List.map_singleton, List.sum_singleton, List.count_nil, Nat.zero_add]
      exact (List.sublist_cons_self _ _).count_le _
  | _ => simp [Chain.ahead, *]

end Move

namespace Withdrawal

variable {traffic left : Traffic σ} {chain : Chain σ} {facts : List CallFact} {parts : List (Chain σ)}

theorem engaged (withdrawal : Withdrawal traffic chain facts left parts) (gate : Nat) :
    facts.count (.admitted gate) + chain.engaged gate =
      facts.count (.returned gate) + (parts.map (Chain.engaged gate)).sum := by
  cases withdrawal with
  | vanish alone =>
      rw [count_filterMap_returned, count_filterMap_returned_of_ne _ (by simp)]
      simp [Chain.engaged, Chain.unreturned, alone]
  | detach outside =>
      rw [count_filterMap_returned, count_filterMap_returned_of_ne _ (by simp)]
      simp only [Chain.engaged, Chain.unreturned, Chain.outstanding, outside, List.map_singleton, List.sum_singleton,
        List.flatMap_append, List.flatMap_singleton, List.count_append]
      omega

theorem entrances (withdrawal : Withdrawal traffic chain facts left parts) (gate : Nat) :
    facts.count (.admitted gate) + facts.count (.refused gate) +
      (parts.map fun part => part.ahead.count (.gate gate)).sum ≤ chain.ahead.count (.gate gate) := by
  cases withdrawal with
  | vanish alone =>
      rw [count_filterMap_returned_of_ne _ (by simp), count_filterMap_returned_of_ne _ (by simp)]
      simp
  | detach outside =>
      rw [count_filterMap_returned_of_ne _ (by simp), count_filterMap_returned_of_ne _ (by simp)]
      simp [Chain.ahead]

end Withdrawal

namespace CallLaw

variable {switchboard : Switchboard σ} {given : CallProperty σ}

/-- A call is behind a gate for as long as it has something left to do there. -/
theorem engaged (gate : Nat) :
    CallLaw switchboard (fun _ _ => true) given fun _ record chains =>
      record.facts.count (.admitted gate) =
        record.facts.count (.returned gate) + (chains.map (Chain.engaged gate)).sum where
  call now caller method params := by simp [Chain.engaged, Chain.unreturned, Chain.outstanding]
  move serves _ holds move := by
    have balance := move.engaged gate
    simp only [CallRecord.add, List.count_append, List.map_append, List.map_cons, List.sum_append, List.sum_cons]
      at holds ⊢
    omega
  withdraw _ _ _ holds withdrawal := by
    have balance := withdrawal.engaged gate
    simp only [CallRecord.add, List.count_append, List.map_append, List.map_cons, List.sum_append, List.sum_cons]
      at holds ⊢
    omega
  elapse _ _ _ holds := holds

/-- A call comes to a gate as often as the gate stands in its way. -/
theorem entrances (gate : Nat) :
    CallLaw switchboard (fun _ _ => true) given fun _ record chains =>
      record.facts.count (.admitted gate) + record.facts.count (.refused gate) +
        (chains.map fun chain => chain.ahead.count (.gate gate)).sum ≤
          (switchboard.layers record.method).count (.gate gate) where
  call now caller method params := by simp [Chain.ahead]
  move serves _ holds move := by
    have balance := move.entrances gate
    simp only [CallRecord.add, List.count_append, List.map_append, List.map_cons, List.sum_append, List.sum_cons]
      at holds ⊢
    omega
  withdraw _ _ _ holds withdrawal := by
    have balance := withdrawal.entrances gate
    simp only [CallRecord.add, List.count_append, List.map_append, List.map_cons, List.sum_append, List.sum_cons]
      at holds ⊢
    omega
  elapse _ _ _ holds := holds

end CallLaw

end LedgerService

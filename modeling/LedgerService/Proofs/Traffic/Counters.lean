import LedgerService.Proofs.Traffic.Slots

/-!
# Counters

The counters of the gates and governors and the recorded endings against the records of the calls.
`Chronicle.counts_of_run` says that each of them shows how often something happened to all calls together.
-/

namespace LedgerService

variable {σ : Type}

/-- The counters show how often each kind of thing happened. -/
structure Traffic.Counts (traffic : Traffic σ) (times : CallFact → Nat) : Prop where
  rejections : ∀ (index : Nat) (gate : Gate), traffic.gates[index]? = some gate →
    gate.rejections = times (.refused index)
  warnings : ∀ (index : Nat) (governor : Governor), traffic.governors[index]? = some governor →
    governor.warnings = times (.warned index)
  expirations : ∀ (index : Nat) (governor : Governor), traffic.governors[index]? = some governor →
    governor.expirations = times (.expired index)
  samples : ∀ endpoint status, traffic.samples.count ⟨endpoint, status⟩ = times (.recorded endpoint status)

namespace Traffic.Counts

variable {traffic : Traffic σ} {times others : CallFact → Nat}

/-- Comings and goings at the gates are not counted. -/
theorem of_eq (counts : traffic.Counts times)
    (same : ∀ fact, (∀ gate, fact ≠ .admitted gate) → (∀ gate, fact ≠ .returned gate) → others fact = times fact) :
    traffic.Counts others where
  rejections index gate found := by rw [same _ (by simp) (by simp), counts.rejections index gate found]
  warnings index governor found := by rw [same _ (by simp) (by simp), counts.warnings index governor found]
  expirations index governor found := by rw [same _ (by simp) (by simp), counts.expirations index governor found]
  samples endpoint status := by rw [same _ (by simp) (by simp), counts.samples endpoint status]

theorem adjustGate (counts : traffic.Counts times) (index : Nat) (change : Gate → Gate) (more : Nat)
    (changed : ∀ gate, (change gate).rejections = gate.rejections + more) :
    (traffic.adjustGate index change).Counts fun fact =>
      times fact + if .refused index = fact then more else 0 where
  rejections other gate found := by
    simp only [Traffic.adjustGate, List.getElem?_modify] at found
    rcases Option.map_eq_some_iff.mp found with ⟨old, was, rfl⟩
    rw [← counts.rejections other old was]
    by_cases here : index = other
    · simp [here, changed]
    · simp [here]
  warnings other governor found := by simpa using counts.warnings other governor found
  expirations other governor found := by simpa using counts.expirations other governor found
  samples endpoint status := by simpa [Traffic.adjustGate] using counts.samples endpoint status

theorem discharge (counts : traffic.Counts times) (ending : Ending) (duty : Duty) :
    (traffic.discharge ending duty).Counts fun fact => times fact + (duty.noted ending).count fact := by
  cases duty with
  | leave index =>
      apply (counts.adjustGate index Gate.release 0 fun _ => rfl).of_eq
      simp [Duty.noted]
  | record endpoint =>
      cases labelled : ending.status? with
      | none => simpa [Traffic.discharge, Duty.noted, labelled] using counts
      | some status =>
          simp only [Traffic.discharge, Duty.noted, labelled, Option.toList_some, List.map_singleton]
          refine ⟨?_, ?_, ?_, ?_⟩
          · simpa using counts.rejections
          · simpa using counts.warnings
          · simpa using counts.expirations
          · intro other label
            rw [List.count_cons, counts.samples other label, List.count_singleton]
            simp

theorem abandon (counts : traffic.Counts times) (duties : List Duty) : (traffic.abandon duties).Counts times := by
  induction duties generalizing traffic with
  | nil => exact counts
  | cons duty duties ih =>
      apply ih
      apply (counts.discharge (.panicked none) duty).of_eq
      intro fact _ _
      rw [duty.noted_panicked]
      rfl

theorem report (counts : traffic.Counts times) (caller : Option String) (outcome : Outcome) :
    (traffic.report caller outcome).Counts times := by
  cases caller with
  | none => exact counts
  | some caller => exact ⟨counts.rejections, counts.warnings, counts.expirations, counts.samples⟩

theorem replaceChain (counts : traffic.Counts times) (index : Nat) (chains : List (Chain σ)) :
    (traffic.replaceChain index chains).Counts times :=
  ⟨counts.rejections, counts.warnings, counts.expirations, counts.samples⟩

theorem adjustGovernor (counts : traffic.Counts times) (index : Nat) (change : Governor → Governor)
    (warnings expirations : Nat) (warned : ∀ governor, (change governor).warnings = governor.warnings + warnings)
    (expired : ∀ governor, (change governor).expirations = governor.expirations + expirations) :
    (traffic.adjustGovernor index change).Counts fun fact =>
      times fact + ((if .warned index = fact then warnings else 0) + if .expired index = fact then expirations else 0) where
  rejections other gate found := by simpa using counts.rejections other gate found
  warnings other governor found := by
    simp only [Traffic.adjustGovernor, List.getElem?_modify] at found
    rcases Option.map_eq_some_iff.mp found with ⟨old, was, rfl⟩
    rw [← counts.warnings other old was]
    by_cases here : index = other
    · simp [here, warned]
    · simp [here]
  expirations other governor found := by
    simp only [Traffic.adjustGovernor, List.getElem?_modify] at found
    rcases Option.map_eq_some_iff.mp found with ⟨old, was, rfl⟩
    rw [← counts.expirations other old was]
    by_cases here : index = other
    · simp [here, expired]
    · simp [here]
  samples endpoint status := by simpa [Traffic.adjustGovernor] using counts.samples endpoint status

/-- A move is counted just as it is noted in the record of the call. -/
theorem of_move (counts : traffic.Counts times) {chain : Chain σ} {facts : List CallFact} {left : Traffic σ}
    {parts : List (Chain σ)} (move : Move traffic chain facts left parts) :
    left.Counts fun fact => times fact + facts.count fact := by
  cases move with
  | @refuse index =>
      apply (counts.adjustGate index Gate.turnAway 1 fun _ => rfl).of_eq
      intro fact _ other
      simp [Chain.count_returned_of_ne _ other, List.count_singleton]
  | @letIn index =>
      apply (counts.adjustGate index Gate.letIn 0 fun _ => rfl).of_eq
      intro fact other _
      simp [Ne.symm (other index)]
  | finish =>
      apply counts.of_eq
      intro fact _ other
      simp [Chain.count_returned_of_ne _ other]
  | consult => exact ⟨counts.rejections, counts.warnings, counts.expirations, counts.samples⟩
  | @discharge ending duty =>
      apply (counts.discharge ending duty).of_eq
      intro fact _ other
      simp [Chain.count_returned_of_ne _ other]
  | resume =>
      apply counts.of_eq
      intro fact _ other
      simp [Chain.count_returned_of_ne _ other]
  | answer => simpa using counts.report _ _
  | @warn position wait =>
      apply (counts.adjustGovernor wait.governor Governor.warn 1 0 (fun _ => rfl) fun _ => rfl).of_eq
      intro fact _ _
      simp [List.count_singleton]
  | @expire position wait _ governor =>
      rw [chain.outer_returned position wait (.answered (.error governor.refusal))]
      apply (counts.adjustGovernor wait.governor Governor.expire 0 1 (fun _ => rfl) fun _ => rfl).of_eq
      intro fact _ other
      simp [Chain.count_returned_of_ne _ other, List.count_singleton]
  | _ => exact counts

theorem of_withdrawal (counts : traffic.Counts times) {chain : Chain σ} {facts : List CallFact} {left : Traffic σ}
    {parts : List (Chain σ)} (withdrawal : Withdrawal traffic chain facts left parts) :
    left.Counts fun fact => times fact + facts.count fact := by
  cases withdrawal with
  | vanish =>
      apply ((counts.abandon _).report _ _).of_eq
      intro fact _ other
      rw [count_filterMap_returned_of_ne _ other, Nat.add_zero]
  | detach =>
      apply ((counts.abandon _).report _ _).of_eq
      intro fact _ other
      rw [count_filterMap_returned_of_ne _ other, Nat.add_zero]

end Traffic.Counts

namespace Chronicle

variable {switchboard : Switchboard σ} {chronicle next : Chronicle σ} {event : SwitchboardEvent σ}

/-- How often something happened to all calls together. -/
def times (chronicle : Chronicle σ) (fact : CallFact) : Nat :=
  (chronicle.calls.map fun record => record.facts.count fact).sum

theorem sum_map_modify {α : Type} {measure : α → Nat} {change : α → α} {more : Nat}
    (changed : ∀ element, measure (change element) = measure element + more) {elements : List α} {index : Nat}
    (bound : index < elements.length) :
    ((elements.modify index change).map measure).sum = (elements.map measure).sum + more := by
  induction elements generalizing index with
  | nil => simp at bound
  | cons element elements ih =>
      cases index with
      | zero =>
          simp only [List.modify_zero_cons, List.map_cons, List.sum_cons, changed]
          omega
      | succ index =>
          simp only [List.modify_succ_cons, List.map_cons, List.sum_cons, ih (Nat.lt_of_succ_lt_succ bound)]
          omega

theorem times_note {owner : Nat} (known : owner < chronicle.calls.length) (index parts : Nat)
    (facts : List CallFact) (left : Traffic σ) (fact : CallFact) :
    (chronicle.note owner ⟨index, facts, parts⟩ left).times fact = chronicle.times fact + facts.count fact := by
  apply sum_map_modify _ known
  intro record
  rw [CallRecord.add_facts, List.count_append, Nat.add_comm]

theorem counts_of_step (orderly : chronicle.Orderly switchboard)
    (counts : chronicle.traffic.Counts chronicle.times) (step : Step switchboard chronicle event next) :
    next.traffic.Counts next.times := by
  cases step with
  | call caller method params =>
      refine Traffic.Counts.of_eq
        ⟨counts.rejections, counts.warnings, counts.expirations, counts.samples⟩ fun fact _ _ => ?_
      simp [times, enroll]
  | move found owned move =>
      apply ((counts.of_move move).replaceChain _ _).of_eq
      intro fact _ _
      exact times_note (orderly.known _ (List.mem_of_getElem? owned)) _ _ _ _ fact
  | withdraw found owned waiting withdrawal =>
      apply ((counts.of_withdrawal withdrawal).replaceChain _ _).of_eq
      intro fact _ _
      exact times_note (orderly.known _ (List.mem_of_getElem? owned)) _ _ _ _ fact
  | elapse => exact ⟨counts.rejections, counts.warnings, counts.expirations, counts.samples⟩
  | disturb => exact ⟨counts.rejections, counts.warnings, counts.expirations, counts.samples⟩

/-- After every run, the counters show how often something happened to the calls. -/
theorem counts_of_run {surroundings : σ} {events : List (SwitchboardEvent σ)}
    (idleGates : ∀ gate ∈ (switchboard.idleTraffic surroundings).gates, gate.design = gate)
    (idleGovernors : ∀ governor ∈ (switchboard.idleTraffic surroundings).governors, governor.design = governor)
    (run : (start switchboard surroundings).run? switchboard events = some chronicle) :
    chronicle.traffic.Counts chronicle.times := by
  have counts : (start switchboard surroundings).traffic.Counts (start switchboard surroundings).times := by
    refine ⟨?_, ?_, ?_, fun _ _ => rfl⟩
    · intro index gate found
      rw [← idleGates gate (List.mem_of_getElem? found)]
      rfl
    · intro index governor found
      rw [← idleGovernors governor (List.mem_of_getElem? found)]
      rfl
    · intro index governor found
      rw [← idleGovernors governor (List.mem_of_getElem? found)]
      rfl
  exact (invariant_of_run (orderly_start switchboard surroundings) counts
    (fun orderly counts step => counts_of_step orderly counts step) run).2

end Chronicle

end LedgerService

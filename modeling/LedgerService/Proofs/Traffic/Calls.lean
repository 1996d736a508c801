import LedgerService.Proofs.Traffic.Move
import Mathlib.Algebra.BigOperators.Group.List.Basic
import Mathlib.Algebra.Order.Ring.Nat
import Mathlib.Data.List.Nodup

/-!
# The chains of a call

An event concerns one chain, and so the chains of one call only. What holds of a call, its record and its chains,
can therefore be shown call by call: `Chronicle.satisfies_of_run` says that a `CallLaw` holds after every run, and
the obligations of a `CallLaw` speak of one call alone.
-/

namespace LedgerService

variable {σ : Type}

theorem map_modify_of_unseen {α β : Type} {view : α → β} {change : α → α}
    (unseen : ∀ element, view (change element) = view element) (elements : List α) (index : Nat) :
    (elements.modify index change).map view = elements.map view := by
  induction elements generalizing index with
  | nil => simp
  | cons element elements ih => cases index <;> simp [unseen, ih]

theorem eq_take_append_cons_drop {α : Type} {elements : List α} {index : Nat} {element : α}
    (found : elements[index]? = some element) :
    elements = elements.take index ++ element :: elements.drop (index + 1) := by
  rcases List.getElem?_eq_some_iff.mp found with ⟨bound, rfl⟩
  rw [← List.drop_eq_getElem_cons, List.take_append_drop]

/-- The gate as it was before any request. -/
def Gate.design (gate : Gate) : Gate := .idle gate.resource gate.limit gate.meters

/-- The governor as it was before any request. -/
def Governor.design (governor : Governor) : Governor :=
  .idle governor.resource governor.warning governor.limit governor.meters

/-- The gates and governors stem from a switchboard. -/
structure Traffic.Serves (traffic : Traffic σ) (switchboard : Switchboard σ) : Prop where
  gates : traffic.gates.map Gate.design =
    (switchboard.outermost.gate :: switchboard.enclosures.map Enclosure.gate).map Gate.design
  governors : traffic.governors.map Governor.design =
    (switchboard.outermost.governor :: switchboard.enclosures.map Enclosure.governor).map Governor.design

namespace Traffic.Serves

variable {switchboard : Switchboard σ} {traffic : Traffic σ}

theorem idleTraffic (switchboard : Switchboard σ) (surroundings : σ) :
    (switchboard.idleTraffic surroundings).Serves switchboard :=
  ⟨rfl, rfl⟩

theorem adjustGate (serves : traffic.Serves switchboard) (index : Nat) {change : Gate → Gate}
    (kept : ∀ gate, (change gate).design = gate.design) : (traffic.adjustGate index change).Serves switchboard := by
  exact ⟨(map_modify_of_unseen kept _ index).trans serves.gates, serves.governors⟩

theorem adjustGovernor (serves : traffic.Serves switchboard) (index : Nat) {change : Governor → Governor}
    (kept : ∀ governor, (change governor).design = governor.design) :
    (traffic.adjustGovernor index change).Serves switchboard := by
  exact ⟨serves.gates, (map_modify_of_unseen kept _ index).trans serves.governors⟩

theorem discharge (serves : traffic.Serves switchboard) (ending : Ending) (duty : Duty) :
    (traffic.discharge ending duty).Serves switchboard := by
  cases duty with
  | leave gate => exact serves.adjustGate gate fun _ => rfl
  | record endpoint =>
      cases labelled : ending.status? with
      | none => simpa [Traffic.discharge, labelled] using serves
      | some status => simpa [Traffic.discharge, labelled] using ⟨serves.gates, serves.governors⟩

theorem abandon (serves : traffic.Serves switchboard) (duties : List Duty) :
    (traffic.abandon duties).Serves switchboard := by
  induction duties generalizing traffic with
  | nil => exact serves
  | cons duty duties ih => exact ih (serves.discharge _ duty)

theorem report (serves : traffic.Serves switchboard) (caller : Option String) (outcome : Outcome) :
    (traffic.report caller outcome).Serves switchboard := by
  cases caller <;> exact ⟨serves.gates, serves.governors⟩

theorem replaceChain (serves : traffic.Serves switchboard) (index : Nat) (chains : List (Chain σ)) :
    (traffic.replaceChain index chains).Serves switchboard :=
  ⟨serves.gates, serves.governors⟩

theorem of_move (serves : traffic.Serves switchboard) {chain : Chain σ} {facts left parts}
    (move : Move traffic chain facts left parts) : left.Serves switchboard := by
  cases move with
  | refuse => exact serves.adjustGate _ fun _ => rfl
  | letIn => exact serves.adjustGate _ fun _ => rfl
  | consult => exact ⟨serves.gates, serves.governors⟩
  | discharge => exact serves.discharge _ _
  | answer => exact serves.report _ _
  | warn => exact serves.adjustGovernor _ fun _ => rfl
  | expire => exact serves.adjustGovernor _ fun _ => rfl
  | _ => exact serves

theorem of_withdrawal (serves : traffic.Serves switchboard) {chain : Chain σ} {facts left parts}
    (withdrawal : Withdrawal traffic chain facts left parts) : left.Serves switchboard := by
  cases withdrawal with
  | vanish => exact (serves.abandon _).report _ _
  | detach => exact (serves.abandon _).report _ _

/-- Every gate of the traffic is the gate at the same position of the switchboard. -/
theorem gate_of_getElem? (serves : traffic.Serves switchboard) {index : Nat} {gate : Gate}
    (found : traffic.gates[index]? = some gate) :
    ∃ original, (switchboard.outermost.gate :: switchboard.enclosures.map Enclosure.gate)[index]? = some original ∧
      gate.design = original.design := by
  have same := congrArg (·[index]?) serves.gates
  simp only [List.getElem?_map, found, Option.map_some] at same
  rcases Option.map_eq_some_iff.mp same.symm with ⟨original, known, agrees⟩
  exact ⟨original, known, agrees.symm⟩

theorem gates_length (serves : traffic.Serves switchboard) :
    traffic.gates.length = switchboard.enclosures.length + 1 := by
  simpa using congrArg List.length serves.gates

theorem governors_length (serves : traffic.Serves switchboard) :
    traffic.governors.length = switchboard.enclosures.length + 1 := by
  simpa using congrArg List.length serves.governors

end Traffic.Serves

namespace Traffic

@[simp]
theorem discharge_chains (traffic : Traffic σ) (ending : Ending) (duty : Duty) :
    (traffic.discharge ending duty).chains = traffic.chains := by
  cases duty with
  | leave gate => rfl
  | record endpoint => cases labelled : ending.status? <;> simp [discharge, labelled]

@[simp]
theorem discharge_now (traffic : Traffic σ) (ending : Ending) (duty : Duty) :
    (traffic.discharge ending duty).now = traffic.now := by
  cases duty with
  | leave gate => rfl
  | record endpoint => cases labelled : ending.status? <;> simp [discharge, labelled]

@[simp]
theorem abandon_chains (traffic : Traffic σ) (duties : List Duty) :
    (traffic.abandon duties).chains = traffic.chains := by
  induction duties generalizing traffic with
  | nil => rfl
  | cons duty duties ih => simpa [abandon] using ih (traffic.discharge (.panicked none) duty)

@[simp]
theorem abandon_now (traffic : Traffic σ) (duties : List Duty) :
    (traffic.abandon duties).now = traffic.now := by
  induction duties generalizing traffic with
  | nil => rfl
  | cons duty duties ih => simpa [abandon] using ih (traffic.discharge (.panicked none) duty)

@[simp]
theorem report_chains (traffic : Traffic σ) (caller : Option String) (outcome : Outcome) :
    (traffic.report caller outcome).chains = traffic.chains := by
  cases caller <;> rfl

@[simp]
theorem report_now (traffic : Traffic σ) (caller : Option String) (outcome : Outcome) :
    (traffic.report caller outcome).now = traffic.now := by
  cases caller <;> rfl

end Traffic

namespace Move

variable {traffic left : Traffic σ} {chain : Chain σ} {facts : List CallFact} {parts : List (Chain σ)}

theorem chains_eq (move : Move traffic chain facts left parts) : left.chains = traffic.chains := by
  cases move <;> simp [Traffic.adjustGate, Traffic.adjustGovernor]

theorem now_eq (move : Move traffic chain facts left parts) : left.now = traffic.now := by
  cases move <;> simp [Traffic.adjustGate, Traffic.adjustGovernor]

end Move

namespace Withdrawal

variable {traffic left : Traffic σ} {chain : Chain σ} {facts : List CallFact} {parts : List (Chain σ)}

theorem chains_eq (withdrawal : Withdrawal traffic chain facts left parts) : left.chains = traffic.chains := by
  cases withdrawal <;> simp

theorem now_eq (withdrawal : Withdrawal traffic chain facts left parts) : left.now = traffic.now := by
  cases withdrawal <;> simp

end Withdrawal

theorem zip_replace {α β : Type} {owners : List α} {chains : List β} {index : Nat} {owner : α} {chain : β}
    (balanced : owners.length = chains.length) (owned : owners[index]? = some owner)
    (found : chains[index]? = some chain) (parts : List β) :
    ∃ before after, owners.zip chains = before ++ (owner, chain) :: after ∧
      (owners.take index ++ (List.replicate parts.length owner ++ owners.drop (index + 1))).zip
          (chains.take index ++ parts ++ chains.drop (index + 1)) =
        before ++ (parts.map (Prod.mk owner) ++ after) := by
  refine ⟨(owners.take index).zip (chains.take index),
    (owners.drop (index + 1)).zip (chains.drop (index + 1)), ?_, ?_⟩
  · rcases List.getElem?_eq_some_iff.mp owned with ⟨bound, rfl⟩
    rcases List.getElem?_eq_some_iff.mp found with ⟨bound', rfl⟩
    rw [← List.zip_cons_cons, ← List.zip_append (by simp [balanced]), ← List.drop_eq_getElem_cons,
      ← List.drop_eq_getElem_cons, List.take_append_drop, List.take_append_drop]
  · rw [List.append_assoc, List.zip_append (by simp [balanced]), List.zip_append (by simp)]
    congr 2
    induction parts with
    | nil => rfl
    | cons part parts ih => simp [List.replicate_succ, ih]

namespace Chronicle

variable {switchboard : Switchboard σ} {chronicle next : Chronicle σ} {event : SwitchboardEvent σ}

/-- The chronicle is about the traffic of a switchboard, and every chain belongs to a call. -/
structure Orderly (switchboard : Switchboard σ) (chronicle : Chronicle σ) : Prop where
  serves : chronicle.traffic.Serves switchboard
  balanced : chronicle.Balanced
  known : ∀ owner ∈ chronicle.owners, owner < chronicle.calls.length

theorem orderly_start (switchboard : Switchboard σ) (surroundings : σ) :
    (start switchboard surroundings).Orderly switchboard :=
  ⟨.idleTraffic switchboard surroundings, rfl, by simp [start]⟩

theorem chainsOf_note {index owner : Nat} {chain : Chain σ} {left : Traffic σ} (balanced : chronicle.Balanced)
    (found : chronicle.traffic.chains[index]? = some chain) (owned : chronicle.owners[index]? = some owner)
    (same : left.chains = chronicle.traffic.chains) (facts : List CallFact) (parts : List (Chain σ)) :
    (∃ before after, chronicle.chainsOf owner = before ++ chain :: after ∧
      (chronicle.note owner ⟨index, facts, parts.length⟩ (left.replaceChain index parts)).chainsOf owner =
        before ++ (parts ++ after)) ∧
      ∀ call, call ≠ owner →
        (chronicle.note owner ⟨index, facts, parts.length⟩ (left.replaceChain index parts)).chainsOf call =
          chronicle.chainsOf call := by
  rcases zip_replace balanced owned found parts with ⟨before, after, split, replaced⟩
  have mine : ∀ call, (parts.map (Prod.mk owner)).filterMap (ownChain call) =
      if owner = call then parts else [] := by
    intro call
    rw [List.filterMap_map]
    by_cases same : owner = call <;> simp [Function.comp_def, ownChain, same]
  refine ⟨⟨before.filterMap (ownChain owner), after.filterMap (ownChain owner), ?_, ?_⟩, ?_⟩
  · simp [chainsOf, split, ownChain]
  · simp only [chainsOf, note, Traffic.replaceChain, same]
    rw [replaced]
    simp [mine]
  · intro call other
    simp only [chainsOf, note, Traffic.replaceChain, same, replaced, split, List.filterMap_append, mine,
      List.filterMap_cons, ownChain, if_neg other.symm, List.nil_append]

theorem chainsOf_enroll (orderly : chronicle.Orderly switchboard) (method : String) (chain : Chain σ) (call : Nat) :
    (chronicle.enroll method { chronicle.traffic with chains := chronicle.traffic.chains ++ [chain] }).chainsOf call =
      chronicle.chainsOf call ++ if call = chronicle.calls.length then [chain] else [] := by
  simp only [chainsOf, enroll]
  rw [List.zip_append orderly.balanced, List.filterMap_append]
  congr 1
  by_cases new : chronicle.calls.length = call
  · simp [new, ownChain]
  · simp [new, Ne.symm new, ownChain]

theorem chainsOf_eq_nil (orderly : chronicle.Orderly switchboard) {call : Nat}
    (unknown : chronicle.calls.length ≤ call) : chronicle.chainsOf call = [] := by
  rw [chainsOf, List.filterMap_eq_nil_iff]
  rintro ⟨owner, chain⟩ mem
  have bound := orderly.known owner (List.of_mem_zip mem).1
  have other : owner ≠ call := by omega
  simp [ownChain, other]

theorem mem_chainsOf {call : Nat} {chain : Chain σ} (mem : chain ∈ chronicle.chainsOf call) :
    chain ∈ chronicle.traffic.chains := by
  rcases List.mem_filterMap.mp mem with ⟨⟨owner, other⟩, pair, same⟩
  have known := (List.of_mem_zip pair).2
  rw [ownChain, Option.ite_none_right_eq_some] at same
  exact Option.some.inj same.2 ▸ known

theorem orderly_note {index owner : Nat} {chain : Chain σ} {facts : List CallFact} {left : Traffic σ}
    {parts : List (Chain σ)} (orderly : chronicle.Orderly switchboard)
    (found : chronicle.traffic.chains[index]? = some chain) (owned : chronicle.owners[index]? = some owner)
    (same : left.chains = chronicle.traffic.chains) (serves : left.Serves switchboard) :
    (chronicle.note owner ⟨index, facts, parts.length⟩ (left.replaceChain index parts)).Orderly switchboard := by
  have bound := (List.getElem?_eq_some_iff.mp found).1
  have balanced := orderly.balanced
  refine ⟨serves.replaceChain index parts, ?_, ?_⟩
  · unfold Balanced at balanced
    simp only [Balanced, note, Traffic.replaceChain, same, List.length_append, List.length_take,
      List.length_drop, List.length_replicate]
    omega
  · intro other mem
    simp only [note, List.length_modify, List.mem_append, List.mem_replicate] at mem ⊢
    rcases mem with early | ⟨-, rfl⟩ | late
    · exact orderly.known other (List.mem_of_mem_take early)
    · exact orderly.known other (List.mem_of_getElem? owned)
    · exact orderly.known other (List.mem_of_mem_drop late)

theorem Orderly.of_step (orderly : chronicle.Orderly switchboard)
    (step : Step switchboard chronicle event next) : next.Orderly switchboard := by
  cases step with
  | call caller method params =>
      refine ⟨⟨orderly.serves.gates, orderly.serves.governors⟩, ?_, ?_⟩
      · have balanced := orderly.balanced
        simpa [Balanced, enroll] using balanced
      · intro owner mem
        simp only [enroll, List.mem_append, List.mem_singleton, List.length_append, List.length_singleton] at mem ⊢
        rcases mem with old | new
        · have bound := orderly.known owner old
          omega
        · omega
  | move found owned move => exact orderly_note orderly found owned move.chains_eq (orderly.serves.of_move move)
  | withdraw found owned _ withdrawal =>
      exact orderly_note orderly found owned withdrawal.chains_eq (orderly.serves.of_withdrawal withdrawal)
  | elapse => exact ⟨⟨orderly.serves.gates, orderly.serves.governors⟩, orderly.balanced, orderly.known⟩
  | disturb => exact ⟨⟨orderly.serves.gates, orderly.serves.governors⟩, orderly.balanced, orderly.known⟩

/-- What holds at the start and is kept by every step that keeps to a rule holds after a run that keeps to it. -/
theorem invariant_of_keepsTo {Invariant : Chronicle σ → Prop} {rule : Traffic σ → SwitchboardEvent σ → Bool}
    {events : List (SwitchboardEvent σ)} (orderly : chronicle.Orderly switchboard) (holds : Invariant chronicle)
    (kept : ∀ {event before after}, rule before.traffic event = true → before.Orderly switchboard →
      Invariant before → Step switchboard before event after → Invariant after)
    (keeps : chronicle.traffic.keepsTo (Traffic.react? switchboard) rule events = true)
    (run : chronicle.run? switchboard events = some next) :
    next.Orderly switchboard ∧ Invariant next := by
  induction events generalizing chronicle with
  | nil =>
      rcases Option.some.inj run with rfl
      exact ⟨orderly, holds⟩
  | cons event events ih =>
      rcases Option.bind_eq_some_iff.mp run with ⟨middle, happened, rest⟩
      rcases Traffic.keepsTo_cons.mp keeps with ⟨rule, onward⟩
      have step := step_of_step? orderly.balanced happened
      have reacts := chronicle.step?_traffic switchboard event
      rw [happened] at reacts
      exact ih (orderly.of_step step) (kept rule orderly holds step) (onward _ reacts.symm) rest

/-- What holds at the start and is kept by every step holds after every run. -/
theorem invariant_of_run {Invariant : Chronicle σ → Prop} {events : List (SwitchboardEvent σ)}
    (orderly : chronicle.Orderly switchboard) (holds : Invariant chronicle)
    (kept : ∀ {event before after}, before.Orderly switchboard → Invariant before →
      Step switchboard before event after → Invariant after)
    (run : chronicle.run? switchboard events = some next) :
    next.Orderly switchboard ∧ Invariant next := by
  have free : chronicle.traffic.keepsTo (Traffic.react? switchboard) (fun _ _ => true) events = true :=
    Traffic.keepsTo_of_forall fun _ _ _ => rfl
  exact invariant_of_keepsTo orderly holds (fun _ => kept) free run

theorem orderly_of_run {surroundings : σ} {events : List (SwitchboardEvent σ)}
    (run : (start switchboard surroundings).run? switchboard events = some chronicle) :
    chronicle.Orderly switchboard := by
  have kept : ∀ {event before after}, Orderly switchboard before → True →
      Step switchboard before event after → True := fun _ _ _ => trivial
  exact (invariant_of_run (orderly_start switchboard surroundings) trivial kept run).1

/-- A sum over chains with owners is a sum over the owners and the chains of each. -/
theorem sum_owned (measure : Chain σ → Nat) {owned : List (Nat × Chain σ)} {count : Nat}
    (known : ∀ pair ∈ owned, pair.1 < count) :
    (owned.map fun pair => measure pair.2).sum =
      ((List.range count).map fun call => ((owned.filterMap (ownChain call)).map measure).sum).sum := by
  induction owned with
  | nil => simp
  | cons pair owned ih =>
      have split : ∀ call, (((pair :: owned).filterMap (ownChain call)).map measure).sum =
          (if call = pair.1 then measure pair.2 else 0) + ((owned.filterMap (ownChain call)).map measure).sum := by
        intro call
        by_cases mine : pair.1 = call
        · simp [ownChain, mine]
        · simp [ownChain, mine, Ne.symm mine]
      have bound : pair.1 ∈ List.range count := List.mem_range.mpr (known pair List.mem_cons_self)
      simp only [split, List.sum_map_add, List.map_cons, List.sum_cons,
        ih fun other mem => known other (List.mem_cons_of_mem pair mem)]
      congr 1
      rw [List.sum_map_eq_nsmul_single pair.1 _ fun call other _ => if_neg other,
        List.count_eq_one_of_mem List.nodup_range bound, if_pos rfl, one_nsmul]

/-- A sum over all chains is a sum over the calls and the chains of each. -/
theorem sum_chains (orderly : chronicle.Orderly switchboard) (measure : Chain σ → Nat) :
    (chronicle.traffic.chains.map measure).sum =
      (chronicle.calls.zipIdx.map fun numbered => ((chronicle.chainsOf numbered.2).map measure).sum).sum := by
  have chains : (chronicle.owners.zip chronicle.traffic.chains).map Prod.snd = chronicle.traffic.chains :=
    List.map_snd_zip (Nat.le_of_eq (Eq.symm orderly.balanced))
  have calls : chronicle.calls.zipIdx.map Prod.snd = List.range chronicle.calls.length := by
    rw [List.zipIdx_map_snd, List.range_eq_range']
  calc (chronicle.traffic.chains.map measure).sum
    _ = ((chronicle.owners.zip chronicle.traffic.chains).map fun pair => measure pair.2).sum := by
        rw [← Function.comp_def measure, ← List.map_map, chains]
    _ = ((List.range chronicle.calls.length).map fun call => ((chronicle.chainsOf call).map measure).sum).sum :=
        sum_owned measure fun pair mem => orderly.known pair.1 (List.of_mem_zip mem).1
    _ = _ := by rw [← calls, List.map_map, Function.comp_def]

end Chronicle

/-- What may hold of a call at an instant, by its record and its chains. -/
abbrev CallProperty (σ : Type) := Nat → CallRecord → List (Chain σ) → Prop

/--
A property that every call has when it is made, and that no allowed event takes from a call that has it together
with another property. What is allowed may depend on the traffic.
-/
structure CallLaw (switchboard : Switchboard σ) (allowed : Traffic σ → SwitchboardEvent σ → Bool)
    (given law : CallProperty σ) : Prop where
  call : ∀ now caller method params, law now ⟨method, []⟩
    [⟨some caller, [], [], .entering (switchboard.layers method) (switchboard.route method params).2⟩]
  move : ∀ {traffic left record before chain after facts parts}, traffic.Serves switchboard →
    given traffic.now record (before ++ chain :: after) → law traffic.now record (before ++ chain :: after) →
    Move traffic chain facts left parts → law traffic.now (record.add facts) (before ++ (parts ++ after))
  withdraw : ∀ {traffic left caller record before chain after facts parts},
    allowed traffic (.withdraw caller) = true → chain.caller = some caller →
      given traffic.now record (before ++ chain :: after) →
    law traffic.now record (before ++ chain :: after) → Withdrawal traffic chain facts left parts →
    law traffic.now (record.add facts) (before ++ (parts ++ after))
  elapse : ∀ {traffic instant record chains}, allowed traffic (.elapse instant) = true → chains ⊆ traffic.chains →
    given traffic.now record chains → law traffic.now record chains → law instant record chains

namespace CallLaw

variable {switchboard : Switchboard σ} {allowed : Traffic σ → SwitchboardEvent σ → Bool}
  {given first second : CallProperty σ}

/-- A law may rest on more than it needs. -/
theorem under {wider : Traffic σ → SwitchboardEvent σ → Bool} {weaker : CallProperty σ}
    (lawful : CallLaw switchboard wider weaker first)
    (allows : ∀ {traffic event}, allowed traffic event = true → wider traffic event = true)
    (implies : ∀ {now record chains}, given now record chains → weaker now record chains) :
    CallLaw switchboard allowed given first where
  call := lawful.call
  move serves known := lawful.move serves (implies known)
  withdraw allowed waiting known := lawful.withdraw (allows allowed) waiting (implies known)
  elapse allowed mine known := lawful.elapse (allows allowed) mine (implies known)

/-- A law may rest on another one. -/
theorem both (one : CallLaw switchboard allowed given first)
    (other : CallLaw switchboard allowed (fun now record chains => given now record chains ∧ first now record chains)
      second) :
    CallLaw switchboard allowed given fun now record chains => first now record chains ∧ second now record chains where
  call now caller method params := ⟨one.call now caller method params, other.call now caller method params⟩
  move serves known holds move :=
    ⟨one.move serves known holds.1 move, other.move serves ⟨known, holds.1⟩ holds.2 move⟩
  withdraw allows waiting known holds withdrawal :=
    ⟨one.withdraw allows waiting known holds.1 withdrawal,
      other.withdraw allows waiting ⟨known, holds.1⟩ holds.2 withdrawal⟩
  elapse allows mine known holds :=
    ⟨one.elapse allows mine known holds.1, other.elapse allows mine ⟨known, holds.1⟩ holds.2⟩

/-- A law about each chain of a call by itself, which may rest on another law of this kind. -/
theorem ofChains (assumed fits : String → Chain σ → Prop)
    (implies : ∀ {now record chains}, given now record chains → ∀ chain ∈ chains, assumed record.method chain)
    (call : ∀ caller method params, fits method
      ⟨some caller, [], [], .entering (switchboard.layers method) (switchboard.route method params).2⟩)
    (move : ∀ {traffic left method chain facts parts}, traffic.Serves switchboard → assumed method chain →
      fits method chain → Move traffic chain facts left parts → ∀ part ∈ parts, fits method part)
    (withdraw : ∀ {traffic left caller method chain facts parts}, allowed traffic (.withdraw caller) = true →
      chain.caller = some caller → assumed method chain → fits method chain →
      Withdrawal traffic chain facts left parts → ∀ part ∈ parts, fits method part) :
    CallLaw switchboard allowed given fun _ record chains => ∀ chain ∈ chains, fits record.method chain where
  call now caller method params chain mem := by
    rcases List.mem_singleton.mp mem with rfl
    exact call caller method params
  move serves known holds made chain mem := by
    have assumed := implies known _ (List.mem_append_right _ List.mem_cons_self)
    simp only [List.mem_append, List.mem_cons] at holds mem
    rcases mem with early | part | late
    · exact holds chain (.inl early)
    · exact move serves assumed (holds _ (.inr (.inl rfl))) made chain part
    · exact holds chain (.inr (.inr late))
  withdraw allows waiting known holds made chain mem := by
    have assumed := implies known _ (List.mem_append_right _ List.mem_cons_self)
    simp only [List.mem_append, List.mem_cons] at holds mem
    rcases mem with early | part | late
    · exact holds chain (.inl early)
    · exact withdraw allows waiting assumed (holds _ (.inr (.inl rfl))) made chain part
    · exact holds chain (.inr (.inr late))
  elapse _ _ _ holds := holds

end CallLaw

namespace Chronicle

variable {switchboard : Switchboard σ} {chronicle next : Chronicle σ} {event : SwitchboardEvent σ}
  {allowed : Traffic σ → SwitchboardEvent σ → Bool} {law : CallProperty σ}

/-- Every call has a property. -/
def Satisfies (chronicle : Chronicle σ) (law : CallProperty σ) : Prop :=
  ∀ call record, chronicle.calls[call]? = some record → law chronicle.traffic.now record (chronicle.chainsOf call)

theorem Satisfies.of_note {index owner : Nat} {chain : Chain σ} {left : Traffic σ} {facts : List CallFact}
    {parts : List (Chain σ)} (satisfies : chronicle.Satisfies law) (orderly : chronicle.Orderly switchboard)
    (found : chronicle.traffic.chains[index]? = some chain) (owned : chronicle.owners[index]? = some owner)
    (chains : left.chains = chronicle.traffic.chains) (now : left.now = chronicle.traffic.now)
    (kept : ∀ {record before after}, law chronicle.traffic.now record (before ++ chain :: after) →
      law chronicle.traffic.now (record.add facts) (before ++ (parts ++ after))) :
    (chronicle.note owner ⟨index, facts, parts.length⟩ (left.replaceChain index parts)).Satisfies law := by
  rcases chainsOf_note orderly.balanced found owned chains facts parts with
    ⟨⟨before, after, split, replaced⟩, others⟩
  intro call record known
  have same : (chronicle.note owner ⟨index, facts, parts.length⟩ (left.replaceChain index parts)).traffic.now =
      chronicle.traffic.now := now
  rw [same]
  simp only [note, List.getElem?_modify] at known
  by_cases mine : call = owner
  · subst mine
    rcases Option.map_eq_some_iff.mp known with ⟨old, was, rfl⟩
    rw [replaced]
    simp only [if_true]
    exact kept (split ▸ satisfies call old was)
  · rw [others call mine]
    simp only [if_neg (Ne.symm mine), id_map'] at known
    exact satisfies call record known

theorem Satisfies.of_step (satisfies : chronicle.Satisfies law) (orderly : chronicle.Orderly switchboard)
    (lawful : CallLaw switchboard allowed (fun _ _ _ => True) law) (allows : allowed chronicle.traffic event = true)
    (step : Step switchboard chronicle event next) : next.Satisfies law := by
  cases step with
  | call caller method params =>
      intro call record known
      rw [chainsOf_enroll orderly]
      simp only [enroll] at known ⊢
      rcases Nat.lt_trichotomy call chronicle.calls.length with old | new | beyond
      · rw [List.getElem?_append_left old] at known
        simpa [Nat.ne_of_lt old] using satisfies call record known
      · subst new
        rcases by simpa using known with rfl : ⟨method, []⟩ = record
        rw [chainsOf_eq_nil orderly le_rfl]
        simpa using lawful.call chronicle.traffic.now caller method params
      · rw [List.getElem?_eq_none (by simpa using Nat.succ_le_of_lt beyond)] at known
        contradiction
  | move found owned move =>
      exact satisfies.of_note orderly found owned move.chains_eq move.now_eq
        fun holds => lawful.move orderly.serves trivial holds move
  | withdraw found owned waiting withdrawal =>
      exact satisfies.of_note orderly found owned withdrawal.chains_eq withdrawal.now_eq
        fun holds => lawful.withdraw allows waiting trivial holds withdrawal
  | elapse later =>
      intro call record known
      exact lawful.elapse allows (fun _ => mem_chainsOf) trivial (satisfies call record known)
  | disturb => exact satisfies

/-- A law holds after every run of allowed events. -/
theorem satisfies_of_keepsTo {surroundings : σ} {events : List (SwitchboardEvent σ)}
    (lawful : CallLaw switchboard allowed (fun _ _ _ => True) law)
    (keeps : (switchboard.idleTraffic surroundings).keepsTo (Traffic.react? switchboard) allowed events = true)
    (run : (start switchboard surroundings).run? switchboard events = some chronicle) : chronicle.Satisfies law := by
  have holds : (start switchboard surroundings).Satisfies law := by
    intro call record known
    simp [start] at known
  have kept : ∀ {event before after}, allowed before.traffic event = true → Orderly switchboard before →
      before.Satisfies law → Step switchboard before event after → after.Satisfies law := by
    intro event before after allows orderly satisfies step
    exact satisfies.of_step orderly lawful allows step
  exact (invariant_of_keepsTo (orderly_start switchboard surroundings) holds kept keeps run).2

/-- A law that allows every event holds after every run. -/
theorem satisfies_of_run {surroundings : σ} {events : List (SwitchboardEvent σ)}
    (lawful : CallLaw switchboard (fun _ _ => true) (fun _ _ _ => True) law)
    (run : (start switchboard surroundings).run? switchboard events = some chronicle) : chronicle.Satisfies law :=
  satisfies_of_keepsTo lawful (Traffic.keepsTo_of_forall fun _ _ _ => rfl) run

end Chronicle

end LedgerService

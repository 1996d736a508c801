import LedgerService.Proofs.Rpc.Handlers
import LedgerService.Proofs.Rpc.Occupancy
import LedgerService.Proofs.Rpc.Verdicts
import LedgerService.Proofs.Traffic.Counters
import LedgerService.Proofs.Traffic.Watches
import LedgerService.Store.Shelf
import Mathlib.Data.List.Count

/-!
# Accounts

What the counters of the service add up to. `Chronicle.accounts_of_run` says that once all calls are over, the calls
of a method are those that the gate of all methods refused and those that were recorded; that as many of them were
recorded as refused as the gate of the method refused, and as too long as the governor of the method gave up on; and
that no counter of a governor ever changes for a call that a gate refuses.
-/

namespace LedgerService

variable {σ : Type}

namespace Move

variable {traffic left : Traffic σ} {chain : Chain σ} {facts : List CallFact} {parts : List (Chain σ)}

/-- A call is recorded when its innermost task attends to the duty. -/
theorem record_mem (move : Move traffic chain facts left parts) {endpoint status : String}
    (recorded : .recorded endpoint status ∈ facts) : .record endpoint ∈ chain.duties := by
  cases move with
  | refuse => simp [Chain.not_mem_returned] at recorded
  | finish => simp [Chain.not_mem_returned] at recorded
  | @discharge ending duty duties focus ahead =>
      rw [ahead]
      cases duty with
      | leave gate => simp [Chain.not_mem_returned, Duty.noted] at recorded
      | record other =>
          simp only [Duty.noted, List.mem_append, List.mem_map] at recorded
          rcases recorded with early | ⟨label, -, same⟩
          · exact absurd early (Chain.not_mem_returned _ (by simp))
          · cases same
            exact List.mem_cons_self
  | resume => simp [Chain.not_mem_returned] at recorded
  | @expire place wait _ governor found due reached known =>
      rw [chain.outer_returned place wait (.answered (.error governor.refusal))] at recorded
      simp [Chain.not_mem_returned] at recorded
  | _ => simp at recorded

end Move

/-- A call is recorded only for the endpoint of its method. -/
theorem CallLaw.recorded {switchboard : Switchboard σ} :
    CallLaw switchboard (fun _ _ => true)
      (fun _ record chains => ∀ chain ∈ chains, chain.Fits (switchboard.layers record.method))
      fun _ record _ => ∀ endpoint status, .recorded endpoint status ∈ record.facts →
        .sample endpoint ∈ switchboard.layers record.method where
  call now caller method params := by simp
  move serves fits holds move endpoint status recorded := by
    rw [CallRecord.add_method]
    rcases List.mem_append.mp recorded with new | old
    · exact (fits _ (List.mem_append_right _ List.mem_cons_self)).sample_mem (move.record_mem new)
    · exact holds endpoint status old
  withdraw _ _ _ holds withdrawal endpoint status recorded := by
    rw [CallRecord.add_method]
    rcases List.mem_append.mp recorded with new | old
    · exact absurd new (withdrawal.not_mem (by simp))
    · exact holds endpoint status old
  elapse _ _ _ holds := holds

/-- The sample that a fact leaves. -/
def CallFact.sample? : CallFact → Option EndpointSample
  | .recorded endpoint status => some ⟨endpoint, status⟩
  | _ => none

namespace Traffic.Counts

variable {calls : List CallRecord} {traffic : Traffic σ}

theorem samples_perm (counts : traffic.Counts fun fact => (calls.map fun record => record.facts.count fact).sum) :
    traffic.samples.Perm (calls.flatMap fun record => record.facts.filterMap CallFact.sample?) := by
  rw [List.perm_iff_count]
  rintro ⟨endpoint, status⟩
  rw [counts.samples endpoint status, List.count_flatMap]
  congr 1
  apply List.map_congr_left
  intro record _
  rw [Function.comp_apply, List.count, List.count, List.countP_filterMap]
  congr 1
  funext fact
  cases fact <;> simp [CallFact.sample?]

theorem countP_samples (counts : traffic.Counts fun fact => (calls.map fun record => record.facts.count fact).sum)
    (endpoint : String) :
    traffic.samples.countP (·.endpoint == endpoint) =
      (calls.map fun record => record.facts.countP (CallFact.isRecorded endpoint)).sum := by
  rw [counts.samples_perm.countP_eq, List.countP_flatMap]
  congr 1
  apply List.map_congr_left
  intro record _
  rw [Function.comp_apply, List.countP_filterMap]
  congr 1
  funext fact
  cases fact <;> simp [CallFact.sample?, CallFact.isRecorded]

end Traffic.Counts

namespace Switchboard.Made

variable {methods : List (Method σ)} {limits : GlobalLimits} {switchboard : Switchboard σ} {traffic : Traffic σ}

theorem idle_governors (made : switchboard.Made methods limits) (surroundings : σ) :
    ∀ governor ∈ (switchboard.idleTraffic surroundings).governors, governor.design = governor := by
  intro governor mem
  rcases List.mem_cons.mp mem with rfl | mem
  · rw [made.outermost.governor_eq]
    rfl
  · rcases List.mem_map.mp mem with ⟨enclosure, inside, rfl⟩
    rcases List.mem_iff_getElem?.mp inside with ⟨position, there⟩
    have bound : position < methods.length := by
      rw [made.enclosures.length_eq]
      exact (List.getElem?_eq_some_iff.mp there).1
    rcases made.enclosure (List.getElem?_eq_getElem bound) with ⟨same, known, idle⟩
    rcases Option.some.inj (there.symm.trans known)
    rw [Enclosure.IsIdle.governor_eq idle]
    rfl

theorem method_governor (made : switchboard.Made methods limits) (serves : traffic.Serves switchboard)
    {position : Nat} {method : Method σ} (there : methods[position]? = some method) :
    ∃ governor, traffic.governors[position + 1]? = some governor ∧ governor.resource = method.name := by
  rcases made.enclosure there with ⟨enclosure, known, idle⟩
  have bound : position + 1 < traffic.governors.length := by
    have inside := (List.getElem?_eq_some_iff.mp known).1
    rw [serves.governors_length]
    omega
  have found := List.getElem?_eq_getElem bound
  rcases serves.governor_of_getElem? found with ⟨original, same, design⟩
  rw [List.getElem?_cons_succ, List.getElem?_map, known] at same
  rcases Option.some.inj same
  rw [Enclosure.IsIdle.governor_eq idle] at design
  exact ⟨_, found, congrArg Governor.resource design⟩

end Switchboard.Made

/-- What the counters of a method say of its calls. -/
structure Chronicle.Accounts (chronicle : Chronicle σ) (name : String) (gate : Gate) (governor : Governor) : Prop where
  /-- Every call is recorded but for those that the gate of all methods has refused. -/
  calls : chronicle.calls.countP (·.method == name) =
    chronicle.calls.countP (fun record => record.method == name && record.facts.contains (.refused 0)) +
      chronicle.traffic.samples.countP (·.endpoint == name)
  rejections : gate.rejections = chronicle.traffic.samples.count ⟨name, "backlog_full"⟩
  expirations : governor.expirations = chronicle.traffic.samples.count ⟨name, "execution_duration_exceeded"⟩

namespace Chronicle

variable {methods : List (Method σ)} {limits : GlobalLimits} {switchboard : Switchboard σ} {surroundings : σ}
  {events : List (SwitchboardEvent σ)} {chronicle : Chronicle σ}

/--
As long as callers stay, and on a patient clock, every call of a method is accounted for, and no governor notices a
refused call.
-/
theorem accounted_of_run (built : Switchboard.build methods limits = .ok switchboard)
    (candid : ∀ method ∈ methods, ∀ params, (method.handler params).Candid)
    (stays : ∀ event ∈ events, event.isWithdrawal = false)
    (patient : (switchboard.idleTraffic surroundings).keepsTo (Traffic.react? switchboard) Traffic.isPatient events)
    (run : (start switchboard surroundings).run? switchboard events = some chronicle) {call : Nat}
    {record : CallRecord} (known : chronicle.calls[call]? = some record) :
    (record.Refused → record.Unnoticed) ∧ ∀ position handler,
      switchboard.methods.find? record.method = some (position, handler) →
        record.Accounted record.method position (chronicle.chainsOf call) := by
  have made := Switchboard.made_of_build built
  have honest : ∀ method params, (switchboard.route method params).2.Candid := by
    intro name params
    cases found : switchboard.methods.find? name with
    | none => simpa [Switchboard.route, found] using Work.candid_reply rfl
    | some handled =>
        rcases made.find?_eq_some.mp found with ⟨method, there, -, same⟩
        simpa [Switchboard.route, found, ← same] using candid method (List.mem_of_getElem? there) params
  have endings : CallLaw switchboard (fun _ _ => true) (fun _ _ _ => True) _ :=
    ((CallLaw.fits made.sound).both (CallLaw.candid honest)).both ((CallLaw.judged made.sound).under id And.right)
  have prompt : CallLaw switchboard (fun traffic event => !event.isWithdrawal && traffic.isPatient event)
      (fun _ _ _ => True) _ :=
    (endings.under (fun _ => rfl) id).both CallLaw.prompt
  have staying : (switchboard.idleTraffic surroundings).keepsTo (Traffic.react? switchboard)
      (fun _ event => !event.isWithdrawal) events = true :=
    Traffic.keepsTo_of_forall fun event mem _ => by rw [stays event mem, Bool.not_false]
  have lawful := prompt.both (CallLaw.accounted.under (fun allows => (Bool.and_eq_true_iff.mp allows).1) And.right)
  rcases satisfies_of_keepsTo lawful (Traffic.keepsTo_and staying patient) run call record known with
    ⟨⟨-, -, prompt⟩, accounted⟩
  exact ⟨fun refused => (prompt (.inl refused)).unnoticed, accounted⟩

/-- A call leaves nothing at the layers of a method that is not its own. -/
theorem foreign_of_run (built : Switchboard.build methods limits = .ok switchboard)
    (run : (start switchboard surroundings).run? switchboard events = some chronicle) {call : Nat}
    {record : CallRecord} (known : chronicle.calls[call]? = some record) {position : Nat} {method : Method σ}
    (there : methods[position]? = some method) (foreign : record.method ≠ method.name) :
    (∀ status, .recorded method.name status ∉ record.facts) ∧ .refused (position + 1) ∉ record.facts ∧
      .expired (position + 1) ∉ record.facts := by
  have made := Switchboard.made_of_build built
  have absent := made.not_mem_layers there foreign
  refine ⟨fun status recorded => ?_, fun refused => ?_, fun expired => ?_⟩
  · have law := (satisfies_of_run ((CallLaw.fits made.sound).both (CallLaw.recorded.under id And.right))
      run call record known).2
    exact absent _ (by simp [Switchboard.methodLayers]) (law method.name status recorded)
  · have law := satisfies_of_run (CallLaw.entrances (position + 1)) run call record known
    have once := List.count_pos_iff.mpr refused
    have never := List.count_eq_zero.mpr (absent (.gate (position + 1)) (by simp [Switchboard.methodLayers]))
    simp only at law
    omega
  · have law := satisfies_of_run (CallLaw.watches (position + 1)) run call record known
    have once := List.count_pos_iff.mpr expired
    have never := List.count_eq_zero.mpr (absent (.governor (position + 1)) (by simp [Switchboard.methodLayers]))
    simp only at law
    omega

/-- What a call that is over counts for a method. -/
theorem balance_of_run (built : Switchboard.build methods limits = .ok switchboard)
    (candid : ∀ method ∈ methods, ∀ params, (method.handler params).Candid)
    (stays : ∀ event ∈ events, event.isWithdrawal = false)
    (patient : (switchboard.idleTraffic surroundings).keepsTo (Traffic.react? switchboard) Traffic.isPatient events)
    (run : (start switchboard surroundings).run? switchboard events = some chronicle)
    (ended : chronicle.traffic.chains = []) {record : CallRecord} (mem : record ∈ chronicle.calls) {position : Nat}
    {method : Method σ} (there : methods[position]? = some method) :
    (if record.method == method.name then 1 else 0) =
        (if record.method == method.name && record.facts.contains (.refused 0) then 1 else 0) +
          record.facts.countP (CallFact.isRecorded method.name) ∧
      record.facts.count (.refused (position + 1)) = record.facts.count (.recorded method.name "backlog_full") ∧
      record.facts.count (.expired (position + 1)) =
        record.facts.count (.recorded method.name "execution_duration_exceeded") := by
  rcases List.mem_iff_getElem?.mp mem with ⟨call, known⟩
  by_cases called : record.method = method.name
  · have made := Switchboard.made_of_build built
    have found := made.find?_eq_some.mpr ⟨method, there, rfl, rfl⟩
    rw [← called] at found ⊢
    have accounted := (accounted_of_run built candid stays patient run known).2 position method.handler found
    have gone : chronicle.chainsOf call = [] := by simp [chainsOf, ended]
    rw [gone] at accounted
    rcases accounted with ⟨recordings, backlogged, exceeded⟩
    simp only [List.map_nil, List.sum_nil, Nat.add_zero] at recordings backlogged exceeded
    have entered : record.facts.contains (.refused 0) = decide (0 < record.facts.count (.refused 0)) := by
      simp [List.count_pos_iff]
    refine ⟨?_, backlogged.symm, exceeded.symm⟩
    simp only [beq_self_eq_true, Bool.true_and, entered, decide_eq_true_eq, if_true]
    split <;> omega
  · rcases foreign_of_run built run known there called with ⟨unrecorded, unrefused, unexpired⟩
    have nothing : record.facts.countP (CallFact.isRecorded method.name) = 0 := by
      rw [List.countP_eq_zero]
      intro fact mem recorded
      cases fact with
      | recorded endpoint status =>
          rcases beq_iff_eq.mp recorded with rfl
          exact unrecorded status mem
      | _ => contradiction
    rw [nothing, List.count_eq_zero.mpr unrefused, List.count_eq_zero.mpr (unrecorded _),
      List.count_eq_zero.mpr unexpired, List.count_eq_zero.mpr (unrecorded _)]
    simp [called]

theorem accounts_of_ended (built : Switchboard.build methods limits = .ok switchboard)
    (candid : ∀ method ∈ methods, ∀ params, (method.handler params).Candid)
    (stays : ∀ event ∈ events, event.isWithdrawal = false)
    (patient : (switchboard.idleTraffic surroundings).keepsTo (Traffic.react? switchboard) Traffic.isPatient events)
    (run : (start switchboard surroundings).run? switchboard events = some chronicle)
    (ended : chronicle.traffic.chains = []) {position : Nat} {method : Method σ}
    (there : methods[position]? = some method) {gate : Gate} {governor : Governor}
    (gateFound : chronicle.traffic.gates[position + 1]? = some gate)
    (governorFound : chronicle.traffic.governors[position + 1]? = some governor) :
    chronicle.Accounts method.name gate governor := by
  have made := Switchboard.made_of_build built
  have counts := counts_of_run (made.idle_gates surroundings) (made.idle_governors surroundings) run
  refine ⟨?_, ?_, ?_⟩
  · rw [counts.countP_samples method.name, ← sum_map_ite_one, ← sum_map_ite_one, ← List.sum_map_add]
    congr 1
    apply List.map_congr_left
    intro record mem
    exact (balance_of_run built candid stays patient run ended mem there).1
  · rw [counts.rejections _ gate gateFound, counts.samples method.name]
    unfold times
    congr 1
    apply List.map_congr_left
    intro record mem
    exact (balance_of_run built candid stays patient run ended mem there).2.1
  · rw [counts.expirations _ governor governorFound, counts.samples method.name]
    unfold times
    congr 1
    apply List.map_congr_left
    intro record mem
    exact (balance_of_run built candid stays patient run ended mem there).2.2

theorem rejections_root (built : Switchboard.build methods limits = .ok switchboard)
    (run : (start switchboard surroundings).run? switchboard events = some chronicle) {gate : Gate}
    (found : chronicle.traffic.gates[0]? = some gate) :
    gate.rejections = chronicle.calls.countP (·.facts.contains (.refused 0)) := by
  have made := Switchboard.made_of_build built
  have counts := counts_of_run (made.idle_gates surroundings) (made.idle_governors surroundings) run
  rw [counts.rejections 0 gate found, times, ← sum_map_ite_one]
  congr 1
  apply List.map_congr_left
  intro record mem
  rcases List.mem_iff_getElem?.mp mem with ⟨call, known⟩
  have law := satisfies_of_run (CallLaw.entrances 0) run call record known
  have once := count_root_gate switchboard record.method
  have entered : record.facts.contains (.refused 0) = decide (0 < record.facts.count (.refused 0)) := by
    simp [List.count_pos_iff]
  rw [entered]
  simp only [decide_eq_true_eq] at law ⊢
  split <;> omega

/-- Only calls of methods leave samples. -/
theorem endpoint_mem (built : Switchboard.build methods limits = .ok switchboard)
    (run : (start switchboard surroundings).run? switchboard events = some chronicle) :
    ∀ sample ∈ chronicle.traffic.samples, sample.endpoint ∈ methods.map Method.name := by
  have made := Switchboard.made_of_build built
  have counts := counts_of_run (made.idle_gates surroundings) (made.idle_governors surroundings) run
  intro sample mem
  rcases List.mem_flatMap.mp (counts.samples_perm.subset mem) with ⟨record, recorded, mem⟩
  rcases List.mem_filterMap.mp mem with ⟨fact, happened, same⟩
  rcases List.mem_iff_getElem?.mp recorded with ⟨call, known⟩
  have law := (satisfies_of_run ((CallLaw.fits made.sound).both (CallLaw.recorded.under id And.right))
    run call record known).2
  cases fact with
  | recorded endpoint status =>
      rcases Option.some.inj same with rfl
      have there := law endpoint status happened
      cases found : switchboard.methods.find? record.method with
      | none => simp [Switchboard.layers_of_none found, Switchboard.rootLayers] at there
      | some handled =>
          rcases made.find?_eq_some.mp found with ⟨method, place, named, -⟩
          have own : endpoint = record.method := by
            simpa [Switchboard.layers_of_some found, Switchboard.rootLayers, Switchboard.methodLayers] using there
          rw [List.mem_map]
          exact ⟨method, List.mem_of_getElem? place, named.trans own.symm⟩
  | _ => contradiction

/--
Whatever happens on the service as long as callers stay, once all calls are over its counters add up. The calls of
each method are those that the gate of all methods has refused and those that were recorded; as many were recorded
as refused as the gate of the method has refused, and as too long as the governor of the method has given up on.
The gate of all methods has counted the calls that it refused; there are samples for methods only; the counters of
the governors are the warnings and the endings of the calls, and a call that a gate refused had none of them.
-/
theorem accounts_of_run [LedgerSource σ] {config : ServiceConfig} {switchboard : Switchboard (Surroundings σ)}
    {surroundings : Surroundings σ} {events : List (SwitchboardEvent (Surroundings σ))}
    {chronicle : Chronicle (Surroundings σ)} (built : config.switchboard = .ok switchboard)
    (stays : ∀ event ∈ events, event.isWithdrawal = false)
    (patient : (switchboard.idleTraffic surroundings).keepsTo (Traffic.react? switchboard) Traffic.isPatient events)
    (run : (start switchboard surroundings).run? switchboard events = some chronicle)
    (ended : chronicle.traffic.chains = []) :
    (∀ position (method : Method (Surroundings σ)), config.methodList[position]? = some method →
      ∃ (gate : Gate) (governor : Governor), chronicle.traffic.gates[position + 1]? = some gate ∧
        chronicle.traffic.governors[position + 1]? = some governor ∧ gate.resource = method.name ∧
        governor.resource = method.name ∧ chronicle.Accounts method.name gate governor) ∧
    (∃ gate : Gate, chronicle.traffic.gates[0]? = some gate ∧ gate.resource = globalResource ∧
      gate.rejections = chronicle.calls.countP (·.facts.contains (.refused 0))) ∧
    (∀ sample ∈ chronicle.traffic.samples,
      sample.endpoint ∈ (config.methodList : List (Method (Surroundings σ))).map Method.name) ∧
    (∀ (index : Nat) (governor : Governor), chronicle.traffic.governors[index]? = some governor →
      governor.warnings = chronicle.times (.warned index) ∧
        governor.expirations = chronicle.times (.expired index)) ∧
    ∀ record ∈ chronicle.calls, record.Refused → record.Unnoticed := by
  have made := Switchboard.made_of_build built
  have serves := (orderly_of_run run).serves
  have candid : ∀ method ∈ (config.methodList : List (Method (Surroundings σ))), ∀ params,
      (method.handler params).Candid := config.candid_methodList
  refine ⟨?_, ?_, endpoint_mem built run, ?_, ?_⟩
  · intro position method there
    rcases made.method_gate serves there with ⟨gate, gateFound, resource, -⟩
    rcases made.method_governor serves there with ⟨governor, governorFound, governed⟩
    exact ⟨gate, governor, gateFound, governorFound, resource, governed,
      accounts_of_ended built candid stays patient run ended there gateFound governorFound⟩
  · rcases made.root_gate serves with ⟨gate, found, resource, -⟩
    exact ⟨gate, found, resource, rejections_root built run found⟩
  · intro index governor found
    have counts := counts_of_run (made.idle_gates surroundings) (made.idle_governors surroundings) run
    exact ⟨counts.warnings index governor found, counts.expirations index governor found⟩
  · intro record mem
    rcases List.mem_iff_getElem?.mp mem with ⟨call, known⟩
    exact (accounted_of_run built candid stays patient run known).1

/-- A window for one ledger. -/
def oneLedger : FeeWindow := ⟨⟨#[], 1, 0, Nat.zero_le _, Nat.one_pos, fun _ => rfl⟩, .blank 0⟩

/-- Surroundings in which nothing is stored. -/
def nothingStored : Surroundings Shelf := ⟨.ofList [], ⟨oneLedger, oneLedger, ""⟩, ⟨0⟩, []⟩

/-- A service that takes two calls at a time, and one call for its health. -/
def twoAtATime : ServiceConfig :=
  { ServiceConfig.standard with
    limits := ⟨2, .zero, .zero⟩
    methods := { MethodTable.standard with health := ⟨1, .ofSeconds 5⟩ } }

/-- A task goes on for so many steps. -/
def goOn (chain steps : Nat) : List (SwitchboardEvent (Surroundings Shelf)) := List.replicate steps (.advance chain)

/--
Two calls for the health of the service, of which the gate of the method refuses one; one for its network, which the
gate of all methods refuses; and one for nothing that there is.
-/
def fourCalls : List (SwitchboardEvent (Surroundings Shelf)) :=
  [.call "first" "getHealth" .null, .call "second" "getHealth" .null, .call "third" "getNetwork" .null] ++
    goOn 0 6 ++ goOn 1 6 ++ goOn 2 4 ++ goOn 1 4 ++ goOn 0 8 ++ [.call "fourth" "getNothing" .null] ++ goOn 0 6

/-- The call that the gate of the method refuses is recorded, and counted by the gate. -/
theorem accounts_of_fourCalls :
    ∃ switchboard chronicle, twoAtATime.switchboard = .ok switchboard ∧
      (start switchboard nothingStored).run? switchboard fourCalls = some chronicle ∧
      chronicle.traffic.chains = [] ∧ chronicle.traffic.samples.count ⟨"getHealth", "backlog_full"⟩ = 1 ∧
      ∃ (gate : Gate) (governor : Governor), chronicle.traffic.gates[1]? = some gate ∧
        chronicle.traffic.governors[1]? = some governor ∧ chronicle.Accounts "getHealth" gate governor := by
  rcases Switchboard.exists_run_of_check twoAtATime.methodList twoAtATime.limits nothingStored fourCalls
      (fun chronicle => chronicle.traffic.chains.isEmpty &&
        chronicle.traffic.samples.count ⟨"getHealth", "backlog_full"⟩ == 1)
      (by decide +kernel) with
    ⟨switchboard, chronicle, built, run, seen⟩
  rw [Bool.and_eq_true, List.isEmpty_iff, beq_iff_eq] at seen
  have stays : ∀ event ∈ fourCalls, event.isWithdrawal = false := by decide
  -- No time passes at all.
  have patient : (switchboard.idleTraffic nothingStored).keepsTo (Traffic.react? switchboard) Traffic.isPatient
      fourCalls := by
    apply Traffic.keepsTo_of_forall
    simp [fourCalls, goOn, Traffic.isPatient]
  rcases (accounts_of_run built stays patient run seen.1).1 0 _ rfl with
    ⟨gate, governor, gateFound, governorFound, -, -, accounts⟩
  exact ⟨switchboard, chronicle, built, run, seen.1, seen.2, gate, governor, gateFound, governorFound, accounts⟩

end Chronicle

end LedgerService

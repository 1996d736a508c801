import LedgerService.Proofs.Rpc.Assembly
import LedgerService.Traffic.Schedule

/-!
# Occupancy

What the gauges of a server tell. `Chronicle.gauges_of_run` says that between two steps of its tasks the gauge of
a method is the number of its handlers at work, and the gauge of the server the number of calls that are behind
the server's gate. No gauge ever exceeds its limit, and none is left with anything once no task is left.
-/

namespace LedgerService

variable {σ : Type}

theorem sum_map_ite_one {α : Type} (counts : α → Bool) (elements : List α) :
    (elements.map fun element => if counts element then 1 else 0).sum = elements.countP counts := by
  induction elements with
  | nil => rfl
  | cons element elements ih => rw [List.map_cons, List.sum_cons, ih, List.countP_cons, Nat.add_comm]

namespace CallRecord

/-- A call that meets a gate at most once is behind it when it has gone in and has not come back. -/
theorem isBehind_of_balance {record : CallRecord} {gate engaged : Nat}
    (once : record.facts.count (.admitted gate) ≤ 1)
    (balance : record.facts.count (.admitted gate) = record.facts.count (.returned gate) + engaged) :
    engaged = if record.isBehind gate then 1 else 0 := by
  have entered : record.facts.contains (.admitted gate) = decide (0 < record.facts.count (.admitted gate)) := by
    simp [List.count_pos_iff]
  have back : record.facts.contains (.returned gate) = decide (0 < record.facts.count (.returned gate)) := by
    simp [List.count_pos_iff]
  rw [isBehind, entered, back]
  simp only [Bool.and_eq_true, Bool.not_eq_true', decide_eq_true_eq, decide_eq_false_iff_not]
  split <;> omega

end CallRecord

theorem Enclosure.IsIdle.gate_eq {resource : String} {queueLimit : UInt64} {warning maximum : Duration}
    {enclosure : Enclosure} (idle : enclosure.IsIdle resource queueLimit warning maximum) :
    enclosure.gate = .idle resource queueLimit enclosure.gate.meters :=
  congrArg Enclosure.gate idle

theorem Enclosure.IsIdle.governor_eq {resource : String} {queueLimit : UInt64} {warning maximum : Duration}
    {enclosure : Enclosure} (idle : enclosure.IsIdle resource queueLimit warning maximum) :
    enclosure.governor = .idle resource warning maximum enclosure.governor.meters :=
  congrArg Enclosure.governor idle

namespace Switchboard.Made

variable {methods : List (Method σ)} {limits : GlobalLimits} {switchboard : Switchboard σ} {traffic : Traffic σ}

theorem idle_gates (made : switchboard.Made methods limits) (surroundings : σ) :
    ∀ gate ∈ (switchboard.idleTraffic surroundings).gates, gate.design = gate := by
  intro gate mem
  rcases List.mem_cons.mp mem with rfl | mem
  · rw [made.outermost.gate_eq]
    rfl
  · rcases List.mem_map.mp mem with ⟨enclosure, inside, rfl⟩
    rcases List.mem_iff_getElem?.mp inside with ⟨position, there⟩
    have bound : position < methods.length := by
      rw [made.enclosures.length_eq]
      exact (List.getElem?_eq_some_iff.mp there).1
    rcases made.enclosure (List.getElem?_eq_getElem bound) with ⟨same, known, idle⟩
    rcases Option.some.inj (there.symm.trans known)
    rw [Enclosure.IsIdle.gate_eq idle]
    rfl

theorem root_gate (made : switchboard.Made methods limits) (serves : traffic.Serves switchboard) :
    ∃ gate, traffic.gates[0]? = some gate ∧ gate.resource = globalResource ∧ gate.limit = limits.queueLimit := by
  have bound : 0 < traffic.gates.length := by
    rw [serves.gates_length]
    omega
  have found := List.getElem?_eq_getElem bound
  rcases serves.gate_of_getElem? found with ⟨original, there, design⟩
  rcases Option.some.inj there
  rw [made.outermost.gate_eq] at design
  exact ⟨_, found, congrArg Gate.resource design, congrArg Gate.limit design⟩

theorem method_gate (made : switchboard.Made methods limits) (serves : traffic.Serves switchboard) {position : Nat}
    {method : Method σ} (there : methods[position]? = some method) :
    ∃ gate, traffic.gates[position + 1]? = some gate ∧ gate.resource = method.name ∧
      gate.limit = method.limits.queueLimit := by
  rcases made.enclosure there with ⟨enclosure, known, idle⟩
  have bound : position + 1 < traffic.gates.length := by
    have inside := (List.getElem?_eq_some_iff.mp known).1
    rw [serves.gates_length]
    omega
  have found := List.getElem?_eq_getElem bound
  rcases serves.gate_of_getElem? found with ⟨original, same, design⟩
  rw [List.getElem?_cons_succ, List.getElem?_map, known] at same
  rcases Option.some.inj same
  rw [Enclosure.IsIdle.gate_eq idle] at design
  exact ⟨_, found, congrArg Gate.resource design, congrArg Gate.limit design⟩

/-- Only the calls of a method come to the layers of the method. -/
theorem not_mem_layers (made : switchboard.Made methods limits) {position : Nat} {method : Method σ}
    (there : methods[position]? = some method) {name : String} (other : name ≠ method.name) :
    ∀ layer ∈ methodLayers method.name position, layer ∉ switchboard.layers name := by
  cases known : switchboard.methods.find? name with
  | none => simp [layers_of_none known, rootLayers, methodLayers]
  | some found =>
      rcases made.find?_eq_some.mp known with ⟨called, place, rfl, -⟩
      have elsewhere : position ≠ found.1 := by
        intro same
        rw [same, place] at there
        exact other (congrArg Method.name (Option.some.inj there))
      simp [layers_of_some known, rootLayers, methodLayers, elsewhere, other.symm]

end Switchboard.Made

namespace Chronicle

variable {methods : List (Method σ)} {limits : GlobalLimits} {switchboard : Switchboard σ} {surroundings : σ}
  {events : List (SwitchboardEvent σ)} {chronicle : Chronicle σ}

/-- Between two steps, the places at the gate of a method are held by its handlers at work. -/
theorem places_eq_running (built : Switchboard.build methods limits = .ok switchboard)
    (run : (start switchboard surroundings).run? switchboard events = some chronicle)
    (resting : chronicle.isResting = true) {position : Nat} {method : Method σ}
    (there : methods[position]? = some method) :
    (chronicle.traffic.chains.map (Chain.places (position + 1))).sum = chronicle.running method.name := by
  have made := Switchboard.made_of_build built
  have fits := satisfies_of_run (CallLaw.fits made.sound) run
  rw [sum_chains (orderly_of_run run), running, atWork]
  congr 1
  apply List.map_congr_left
  rintro ⟨record, call⟩ mem
  rw [List.mem_zipIdx_iff_getElem?] at mem
  change _ = if record.method == method.name then (chronicle.chainsOf call).countP Chain.isAtWork else 0
  have own : ∀ chain ∈ chronicle.chainsOf call, chain.Fits (switchboard.layers record.method) :=
    fits call record mem
  have quiet : ∀ chain ∈ chronicle.chainsOf call, chain.isResting = true := by
    intro chain mine
    exact List.all_eq_true.mp resting chain (mem_chainsOf mine)
  by_cases called : record.method = method.name
  · have known := made.find?_eq_some.mpr ⟨method, there, rfl, rfl⟩
    rw [called, Switchboard.layers_of_some known, Switchboard.methodLayers_eq_concat] at own
    rw [if_pos (beq_iff_eq.mpr called), ← sum_map_ite_one]
    congr 1
    apply List.map_congr_left
    intro chain mine
    exact (own chain mine).places_last (by simp [Switchboard.rootLayers]) (quiet chain mine)
  · rw [if_neg (mt beq_iff_eq.mp called), List.sum_eq_zero]
    intro places held
    rcases List.mem_map.mp held with ⟨chain, mine, rfl⟩
    exact (own chain mine).places_eq_zero (made.not_mem_layers there called _ (by simp [Switchboard.methodLayers]))

/-- Every call comes to the gate of all methods at most once. -/
theorem count_root_gate (switchboard : Switchboard σ) (name : String) :
    (switchboard.layers name).count (.gate 0) ≤ 1 := by
  cases known : switchboard.methods.find? name with
  | none => simp [Switchboard.layers_of_none known, Switchboard.rootLayers]
  | some found =>
      simp [Switchboard.layers_of_some known, Switchboard.rootLayers, Switchboard.methodLayers]

/-- A call has something to do behind a gate that it meets at most once just while it is behind the gate. -/
theorem sum_engaged_eq (run : (start switchboard surroundings).run? switchboard events = some chronicle)
    {call : Nat} {record : CallRecord} (known : chronicle.calls[call]? = some record) {gate : Nat}
    (once : (switchboard.layers record.method).count (.gate gate) ≤ 1) :
    ((chronicle.chainsOf call).map (Chain.engaged gate)).sum = if record.isBehind gate then 1 else 0 := by
  have balance := satisfies_of_run (CallLaw.engaged gate) run call record known
  have entered := satisfies_of_run (CallLaw.entrances gate) run call record known
  apply CallRecord.isBehind_of_balance ?_ balance
  simp only at entered
  omega

/-- Between two steps, it has something to do behind the gate just while it holds a place there. -/
theorem sum_places_eq (run : (start switchboard surroundings).run? switchboard events = some chronicle)
    (resting : chronicle.isResting = true) {call : Nat} {record : CallRecord}
    (known : chronicle.calls[call]? = some record) {gate : Nat}
    (once : (switchboard.layers record.method).count (.gate gate) ≤ 1) :
    ((chronicle.chainsOf call).map (Chain.places gate)).sum = if record.isBehind gate then 1 else 0 := by
  rw [← sum_engaged_eq run known once]
  congr 1
  apply List.map_congr_left
  intro chain mine
  exact (Chain.engaged_of_resting (List.all_eq_true.mp resting chain (mem_chainsOf mine)) gate).symm

/-- Between two steps, the places at the gate of all methods are held by the calls behind it. -/
theorem places_eq_countP_isBehind
    (run : (start switchboard surroundings).run? switchboard events = some chronicle)
    (resting : chronicle.isResting = true) :
    (chronicle.traffic.chains.map (Chain.places 0)).sum = chronicle.calls.countP (CallRecord.isBehind 0) := by
  have byCall : chronicle.calls.countP (CallRecord.isBehind 0) =
      (chronicle.calls.zipIdx.map fun numbered => if numbered.1.isBehind 0 then 1 else 0).sum := by
    rw [← sum_map_ite_one, ← List.zipIdx_map_fst 0 chronicle.calls, List.map_map, List.zipIdx_map_fst]
    rfl
  rw [sum_chains (orderly_of_run run), byCall]
  congr 1
  apply List.map_congr_left
  rintro ⟨record, call⟩ mem
  rw [List.mem_zipIdx_iff_getElem?] at mem
  exact sum_places_eq run resting mem (count_root_gate switchboard record.method)

/--
Whatever happens on a server, and however its clock goes, the gauge of a method never exceeds the queue limit of the
method, and between two steps of the tasks it is the number of handlers of the method at work; the gauge of all methods
never exceeds the queue limit of the server, and between two steps it is the number of calls behind the server's gate;
and once no task is left, every gauge is back at zero.
-/
theorem gauges_of_run (built : Switchboard.build methods limits = .ok switchboard)
    (run : (start switchboard surroundings).run? switchboard events = some chronicle) :
    (∀ position method, methods[position]? = some method →
      ∃ gate : Gate, chronicle.traffic.gates[position + 1]? = some gate ∧ gate.resource = method.name ∧
        0 ≤ gate.gauge ∧ gate.gauge ≤ method.limits.queueLimit.toNat ∧
        (chronicle.isResting = true → gate.gauge = chronicle.running method.name)) ∧
    (∃ gate : Gate, chronicle.traffic.gates[0]? = some gate ∧ gate.resource = globalResource ∧
      0 ≤ gate.gauge ∧ gate.gauge ≤ limits.queueLimit.toNat ∧
      (chronicle.isResting = true → gate.gauge = chronicle.calls.countP (CallRecord.isBehind 0))) ∧
    (chronicle.traffic.chains = [] → ∀ gate ∈ chronicle.traffic.gates, gate.gauge = 0) := by
  have made := Switchboard.made_of_build built
  have serves := (orderly_of_run run).serves
  have holds := holds_of_run (made.idle_gates surroundings) run
  refine ⟨?_, ?_, ?_⟩
  · intro position method there
    rcases made.method_gate serves there with ⟨gate, found, resource, limit⟩
    have numbers : gate.Holds (chronicle.traffic.chains.map (Chain.places (position + 1))).sum :=
      holds (position + 1) gate found
    have bound := numbers.withinLimit
    refine ⟨gate, found, resource, ?_, ?_, ?_⟩
    · rw [numbers.gauge]
      exact Int.natCast_nonneg _
    · rw [numbers.gauge, ← limit]
      exact Int.ofNat_le.mpr bound
    · intro resting
      rw [numbers.gauge, places_eq_running built run resting there]
  · rcases made.root_gate serves with ⟨gate, found, resource, limit⟩
    have numbers : gate.Holds (chronicle.traffic.chains.map (Chain.places 0)).sum := holds 0 gate found
    have bound := numbers.withinLimit
    refine ⟨gate, found, resource, ?_, ?_, ?_⟩
    · rw [numbers.gauge]
      exact Int.natCast_nonneg _
    · rw [numbers.gauge, ← limit]
      exact Int.ofNat_le.mpr bound
    · intro resting
      rw [numbers.gauge, places_eq_countP_isBehind run resting]
  · intro ended gate mem
    rcases List.mem_iff_getElem?.mp mem with ⟨index, found⟩
    rw [(holds index gate found).gauge, ended]
    rfl

/-- A method whose handler naps for a second before it answers. -/
def napping (name : String) (queueLimit : UInt64) (maximum : Duration) : Method Unit :=
  ⟨name, ⟨queueLimit, maximum⟩, fun _ => .pause (.ofSeconds 1) (.reply (.ok .null))⟩

/-- Limits with which a server takes one call at a time and never gives up on one. -/
def oneAtATime : GlobalLimits := ⟨1, .zero, .zero⟩

/-- A task goes on until its handler pauses. -/
def comeIn (chain : Nat) : List (SwitchboardEvent Unit) := List.replicate 6 (.advance chain)

/--
A nap that the governor of the method gives up on while the task that the governor has started is kept waiting before
the gate of the method. The caller is told, and then the task goes in.
-/
def givenUpOutside : List (SwitchboardEvent Unit) :=
  .call "first" "getNap" .null :: List.replicate 4 (.advance 0) ++ [.elapse 30000000, .expire 0 0] ++
    List.replicate 4 (.advance 0) ++ [.advance 0, .advance 0]

/-- The gauge of the method counts a handler that nobody waits for and that the gate of all methods does not know. -/
theorem gauges_of_givenUpOutside :
    ∃ switchboard chronicle, Switchboard.build [napping "getNap" 5 (.ofMillis 30)] oneAtATime = .ok switchboard ∧
      (start switchboard ()).run? switchboard givenUpOutside = some chronicle ∧
      chronicle.traffic.pending = [] ∧ chronicle.running "getNap" = 1 ∧
      (∃ gate : Gate, chronicle.traffic.gates[1]? = some gate ∧ gate.gauge = chronicle.running "getNap") ∧
      ∃ gate : Gate, chronicle.traffic.gates[0]? = some gate ∧ gate.gauge = 0 := by
  rcases Switchboard.exists_run_of_check [napping "getNap" 5 (.ofMillis 30)] oneAtATime () givenUpOutside
      (fun chronicle => chronicle.isResting && (chronicle.traffic.pending.isEmpty &&
        (chronicle.running "getNap" == 1 && chronicle.calls.countP (CallRecord.isBehind 0) == 0)))
      (by decide +kernel) with
    ⟨switchboard, chronicle, built, run, seen⟩
  simp only [Bool.and_eq_true, List.isEmpty_iff, beq_iff_eq] at seen
  rcases seen with ⟨resting, nobody, one, outside⟩
  rcases gauges_of_run built run with ⟨methods, ⟨root, there, -, -, -, behind⟩, -⟩
  rcases methods 0 (napping "getNap" 5 (.ofMillis 30)) rfl with ⟨gate, found, -, -, -, told⟩
  refine ⟨switchboard, chronicle, built, run, nobody, one, ⟨gate, found, told resting⟩, root, there, ?_⟩
  rw [behind resting, outside]
  rfl

end Chronicle

end LedgerService

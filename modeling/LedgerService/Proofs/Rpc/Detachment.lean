import LedgerService.Proofs.Rpc.Occupancy
import LedgerService.Proofs.Rpc.Route
import Mathlib.Algebra.Order.BigOperators.Group.List

/-!
# Detached handlers

How long a handler keeps its place among all methods. A handler that the governor of the server gives up on, or
whose caller goes away, keeps it; one that the governor of its own method gives up on does not, for the task that
holds the place goes on with the refusal. `Chronicle.atWork_le_of_run` says that this is all: the limit of the
server bounds the handlers at work but for those that their own governors have given up on, and so it bounds all of
them on a server whose methods have no maximum. `Chronicle.two_at_work_one_at_a_time` is a server that takes one
call at a time and has two handlers at work.
-/

namespace LedgerService

variable {σ : Type}

theorem Stage.frames_of_governed {name : String} {position : Nat} {ahead : List Layer} {depth : Depth}
    (stage : Stage name position ahead depth) (governed : .governor (position + 1) ∉ ahead) :
    depth.frames = [.method name position, .root] := by
  cases stage with
  | outside => simp [Switchboard.rootLayers, Switchboard.methodLayers] at governed
  | watched => simp [Switchboard.methodLayers] at governed
  | admitted => simp [Switchboard.methodLayers] at governed
  | sampled => simp at governed
  | governed => rfl
  | within => rfl

/-- The chain has passed a governor, and no task of it waits any more. -/
structure Chain.Alone (governor : Nat) (chain : Chain σ) : Prop where
  going : ∀ ending, chain.focus ≠ .leaving ending
  passed : .governor governor ∉ chain.ahead
  waits : chain.waits = []

/-- A chain is left alone behind the governor of its method only when this governor gives up on it. -/
theorem Move.alone {traffic left : Traffic σ} {chain : Chain σ} {facts : List CallFact} {parts : List (Chain σ)}
    {name : String} {position : Nat} (move : Move traffic chain facts left parts)
    (fits : chain.Fits (Switchboard.rootLayers ++ Switchboard.methodLayers name position))
    (known : traffic.Knows (.governor (position + 1))) :
    ∀ part ∈ parts, part.Alone (position + 1) → chain.Alone (position + 1) ∨ .expired (position + 1) ∈ facts := by
  cases move with
  | @missGovernor index layers work focus missing =>
      rw [List.forall_mem_singleton]
      rintro ⟨going, passed, waits⟩
      have elsewhere : index ≠ position + 1 := by
        rintro rfl
        have bound : position + 1 < traffic.governors.length := known
        rw [List.getElem?_eq_none_iff] at missing
        omega
      exact .inl ⟨by simp [focus], by simpa [Chain.ahead, focus, Ne.symm elsewhere] using passed, waits⟩
  | govern focus found =>
      rw [List.forall_mem_singleton]
      rintro ⟨going, passed, waits⟩
      simp at waits
  | refuse | finish | resume =>
      rw [List.forall_mem_singleton]
      rintro ⟨going, passed, waits⟩
      exact absurd rfl (going _)
  | discharge focus ahead =>
      rw [List.forall_mem_singleton]
      rintro ⟨going, passed, waits⟩
      exact absurd focus (going _)
  | answer => simp
  | warn found due reached =>
      rw [List.forall_mem_singleton]
      rintro ⟨going, passed, waits⟩
      rw [List.set_eq_nil_iff] at waits
      simp [waits] at found
  | @expire place wait _ governor found due reached _ =>
      intro part mem
      rcases List.mem_pair.mp mem with rfl | rfl
      · rintro ⟨going, passed, waits⟩
        exact absurd rfl (going _)
      · rintro ⟨going, passed, waits⟩
        rcases fits.stage with ⟨ahead, depth, stage, stands⟩
        have frames := stage.frames_of_governed ((stands.busy going).2 ▸ passed)
        -- The wait that gives up is the innermost one, for nothing is left inside it.
        have first : chain.waits.map Wait.frame <+: [.method name position, .root] := frames ▸ stands.waits
        rcases place with _ | place
        · rcases List.exists_cons_of_ne_nil (List.ne_nil_of_mem (List.mem_of_getElem? found)) with ⟨own, waits, same⟩
          rw [same, List.map_cons, List.cons_prefix_cons] at first
          rw [same, List.getElem?_cons_zero] at found
          have governor : wait.governor = position + 1 := by
            rw [← Option.some.inj found]
            exact congrArg Frame.governor first.1
          exact .inr (by simp [governor])
        · have nothing : chain.waits = [] := by simpa [Chain.inner] using waits
          simp [nothing] at found
  | pause | consult | wake =>
      rw [List.forall_mem_singleton]
      rintro ⟨going, passed, waits⟩
      exact .inl ⟨by simp [*], by simp [Chain.ahead, *], waits⟩
  | _ =>
      rw [List.forall_mem_singleton]
      rintro ⟨going, passed, waits⟩
      exact .inl ⟨by simp [*], by simpa [Chain.ahead, *] using passed, waits⟩

theorem Withdrawal.not_alone {traffic left : Traffic σ} {chain : Chain σ} {facts : List CallFact}
    {parts : List (Chain σ)} {name caller : String} {position : Nat}
    (withdrawal : Withdrawal traffic chain facts left parts) (waiting : chain.caller = some caller)
    (fits : chain.Fits (Switchboard.rootLayers ++ Switchboard.methodLayers name position)) :
    ∀ part ∈ parts, ¬ part.Alone (position + 1) := by
  cases withdrawal with
  | vanish => simp
  | @detach remaining outermost outside =>
      rw [List.forall_mem_singleton]
      rintro ⟨going, passed, waits⟩
      rcases fits.stage with ⟨ahead, depth, stage, stands⟩
      have frames := stage.frames_of_governed ((stands.busy going).2 ▸ passed)
      have whole := stands.whole (by simp [waiting])
      have nothing : remaining = [] := waits
      rw [outside, nothing, frames] at whole
      simp at whole

/-- A handler at work that no governor watches has been given up on by the governor of its method. -/
theorem CallLaw.alone {switchboard : Switchboard σ} (sound : switchboard.Sound) :
    CallLaw switchboard (fun _ _ => true)
      (fun _ record chains => ∀ chain ∈ chains, chain.Fits (switchboard.layers record.method))
      fun _ record chains => ∀ position handler, switchboard.methods.find? record.method = some (position, handler) →
        ∀ chain ∈ chains, chain.Alone (position + 1) → .expired (position + 1) ∈ record.facts where
  call now caller method params position handler known chain mem alone := by
    rcases List.mem_singleton.mp mem with rfl
    have passed := alone.passed
    simp [Chain.ahead, Switchboard.layers_of_some known, Switchboard.methodLayers] at passed
  move serves fits holds move position handler known part mem alone := by
    rw [CallRecord.add_method] at known
    have mine := fits _ (List.mem_append_right _ List.mem_cons_self)
    rw [Switchboard.layers_of_some known] at mine
    have governor := sound.knows serves _ (.governor (position + 1)) (by
      rw [Switchboard.layers_of_some known]
      simp [Switchboard.methodLayers])
    have old := holds position handler known
    rw [CallRecord.add_facts, List.mem_append]
    rcases List.mem_append.mp mem with early | mem
    · exact .inr (old part (List.mem_append_left _ early) alone)
    rcases List.mem_append.mp mem with new | late
    · rcases move.alone mine governor part new alone with already | gaveUp
      · exact .inr (old _ (List.mem_append_right _ List.mem_cons_self) already)
      · exact .inl gaveUp
    · exact .inr (old part (List.mem_append_right _ (List.mem_cons_of_mem _ late)) alone)
  withdraw _ waiting fits holds withdrawal position handler known part mem alone := by
    rw [CallRecord.add_method] at known
    have mine := fits _ (List.mem_append_right _ List.mem_cons_self)
    rw [Switchboard.layers_of_some known] at mine
    have old := holds position handler known
    rw [CallRecord.add_facts, List.mem_append]
    rcases List.mem_append.mp mem with early | mem
    · exact .inr (old part (List.mem_append_left _ early) alone)
    rcases List.mem_append.mp mem with new | late
    · exact absurd alone (withdrawal.not_alone waiting mine part new)
    · exact .inr (old part (List.mem_append_right _ (List.mem_cons_of_mem _ late)) alone)
  elapse _ _ _ holds := holds

theorem CallRecord.isGivenUp_iff {record : CallRecord} :
    record.isGivenUp = true ↔ ∃ position, .expired (position + 1) ∈ record.facts := by
  rw [isGivenUp, List.any_eq_true]
  constructor
  · rintro ⟨fact, mem, gaveUp⟩
    split at gaveUp
    · exact ⟨_, mem⟩
    · contradiction
  · rintro ⟨position, mem⟩
    exact ⟨_, mem, rfl⟩

namespace Chronicle

variable {methods : List (Method σ)} {limits : GlobalLimits} {switchboard : Switchboard σ} {surroundings : σ}
  {events : List (SwitchboardEvent σ)} {chronicle : Chronicle σ}

theorem countP_isAtWork_le_one (built : Switchboard.build methods limits = .ok switchboard)
    (run : (start switchboard surroundings).run? switchboard events = some chronicle) {call : Nat}
    {record : CallRecord} (known : chronicle.calls[call]? = some record) :
    (chronicle.chainsOf call).countP Chain.isAtWork ≤ 1 := by
  have made := Switchboard.made_of_build built
  rcases switchboard.layers_eq_concat record.method with ⟨route, gate, layers, once⟩
  have fits : ∀ chain ∈ chronicle.chainsOf call, chain.Fits (switchboard.layers record.method) :=
    satisfies_of_run (CallLaw.fits made.sound) run call record known
  have engaged : (chronicle.chainsOf call).countP Chain.isAtWork ≤
      ((chronicle.chainsOf call).map (Chain.engaged gate)).sum := by
    rw [← sum_map_ite_one]
    apply List.sum_le_sum
    intro chain mine
    split
    · rename_i working
      have own := fits chain mine
      rw [layers] at own
      rw [Chain.engaged_of_going (Chain.going_of_isAtWork working), own.places_of_isAtWork once working]
    · exact Nat.zero_le _
  have met : (switchboard.layers record.method).count (.gate gate) ≤ 1 := by
    rw [layers, List.count_append, List.count_eq_zero.mpr once, Nat.zero_add]
    exact List.count_le_length
  rw [sum_engaged_eq run known met] at engaged
  split at engaged <;> omega

/-- Only the governor of its own method gives up on a call in this way. -/
theorem isGivenUp_iff (run : (start switchboard surroundings).run? switchboard events = some chronicle) {call : Nat}
    {record : CallRecord} (known : chronicle.calls[call]? = some record) :
    record.isGivenUp = true ↔ ∃ position handler,
      switchboard.methods.find? record.method = some (position, handler) ∧ .expired (position + 1) ∈ record.facts := by
  rw [CallRecord.isGivenUp_iff]
  constructor
  · rintro ⟨position, gaveUp⟩
    have bound := satisfies_of_run (CallLaw.watches (position + 1)) run call record known
    have once := List.count_pos_iff.mpr gaveUp
    have met : .governor (position + 1) ∈ switchboard.layers record.method := by
      rw [← List.count_pos_iff]
      simp only at bound
      omega
    cases found : switchboard.methods.find? record.method with
    | none => simp [Switchboard.layers_of_none found, Switchboard.rootLayers] at met
    | some method =>
        have same : position = method.1 := by
          simpa [Switchboard.layers_of_some found, Switchboard.rootLayers, Switchboard.methodLayers] using met
        exact ⟨method.1, method.2, rfl, same ▸ gaveUp⟩
  · rintro ⟨position, handler, -, gaveUp⟩
    exact ⟨position, gaveUp⟩

/-- The governor of its method gives up on a handler at work or else watches it. -/
theorem isGivenUp_of_not_watched (built : Switchboard.build methods limits = .ok switchboard)
    (run : (start switchboard surroundings).run? switchboard events = some chronicle) {call : Nat}
    {record : CallRecord} (known : chronicle.calls[call]? = some record) {position : Nat} {handler : Handler σ}
    (found : switchboard.methods.find? record.method = some (position, handler)) {chain : Chain σ}
    (mine : chain ∈ chronicle.chainsOf call) (working : chain.isAtWork = true)
    (unwatched : chain.watched (position + 1) = 0) : record.isGivenUp = true := by
  have made := Switchboard.made_of_build built
  rcases satisfies_of_run ((CallLaw.fits made.sound).both ((CallLaw.alone made.sound).under id And.right))
    run call record known with ⟨fits, gaveUp⟩
  have own := fits chain mine
  rw [Switchboard.layers_of_some found] at own
  have nobody : chain.waits = [] := by
    by_contra waiting
    have seen := own.watched_of_isAtWork working waiting
    omega
  rw [isGivenUp_iff run known]
  exact ⟨position, handler, found, gaveUp position handler found chain mine
    ⟨Chain.going_of_isAtWork working, by simp [Chain.ahead_of_isAtWork working], nobody⟩⟩

/-- A handler at work is behind the server's gate unless the governor of its method has given up on it. -/
theorem isBehind_of_isAtWork (built : Switchboard.build methods limits = .ok switchboard)
    (run : (start switchboard surroundings).run? switchboard events = some chronicle) {call : Nat}
    {record : CallRecord} (known : chronicle.calls[call]? = some record)
    (working : (chronicle.chainsOf call).any Chain.isAtWork = true) (kept : record.isGivenUp = false) :
    record.isBehind 0 = true := by
  have made := Switchboard.made_of_build built
  have fits : ∀ chain ∈ chronicle.chainsOf call, chain.Fits (switchboard.layers record.method) :=
    satisfies_of_run (CallLaw.fits made.sound) run call record known
  rcases List.any_eq_true.mp working with ⟨chain, mine, busy⟩
  have own := fits chain mine
  have held : 0 < chain.places 0 := by
    cases found : switchboard.methods.find? record.method with
    | none =>
        rw [Switchboard.layers_of_none found] at own
        change chain.Fits ([.governor 0] ++ [.gate 0]) at own
        rw [own.places_of_isAtWork (by simp) busy]
        exact Nat.one_pos
    | some method =>
        rcases method with ⟨position, handler⟩
        rw [Switchboard.layers_of_some found] at own
        rw [own.places_root (own.free_of_isAtWork busy), Nat.pos_iff_ne_zero]
        intro unwatched
        have gaveUp := isGivenUp_of_not_watched built run known found mine busy unwatched
        rw [kept] at gaveUp
        contradiction
  have engaged := sum_engaged_eq run known (count_root_gate switchboard record.method)
  have counted : chain.engaged 0 ≤ ((chronicle.chainsOf call).map (Chain.engaged 0)).sum :=
    List.le_sum_of_mem (List.mem_map_of_mem mine)
  rw [engaged, Chain.engaged_of_going (Chain.going_of_isAtWork busy)] at counted
  by_contra outside
  rw [if_neg outside] at counted
  omega

/-- Between two steps, a call that the governor of its method has given up on is not behind the server's gate. -/
theorem not_isBehind_of_isGivenUp (built : Switchboard.build methods limits = .ok switchboard)
    (run : (start switchboard surroundings).run? switchboard events = some chronicle)
    (resting : chronicle.isResting = true) {call : Nat} {record : CallRecord}
    (known : chronicle.calls[call]? = some record) (gaveUp : record.isGivenUp = true) :
    record.isBehind 0 = false := by
  have made := Switchboard.made_of_build built
  have fits : ∀ chain ∈ chronicle.chainsOf call, chain.Fits (switchboard.layers record.method) :=
    satisfies_of_run (CallLaw.fits made.sound) run call record known
  rcases (isGivenUp_iff run known).mp gaveUp with ⟨position, handler, found, expired⟩
  have watched : ((chronicle.chainsOf call).map (Chain.watched (position + 1))).sum =
      if record.isBehind 0 then 1 else 0 := by
    rw [← sum_places_eq run resting known (count_root_gate switchboard record.method)]
    congr 1
    apply List.map_congr_left
    intro chain mine
    have own := fits chain mine
    rw [Switchboard.layers_of_some found] at own
    exact (own.places_root (own.free_of_isResting (List.all_eq_true.mp resting chain (mem_chainsOf mine)))).symm
  have once := satisfies_of_run (CallLaw.watches (position + 1)) run call record known
  have single : (switchboard.layers record.method).count (.governor (position + 1)) = 1 := by
    simp [Switchboard.layers_of_some found, Switchboard.rootLayers, Switchboard.methodLayers]
  have counted := List.count_pos_iff.mpr expired
  simp only [watched, single] at once
  by_contra behind
  rw [if_pos (by simpa using behind)] at once
  omega

/-- A handler at work that its governor has not given up on has a place among all methods. -/
theorem atWork_le_places (built : Switchboard.build methods limits = .ok switchboard)
    (run : (start switchboard surroundings).run? switchboard events = some chronicle) :
    chronicle.atWork (fun record => !record.isGivenUp) ≤ (chronicle.traffic.chains.map (Chain.places 0)).sum := by
  rw [sum_chains (orderly_of_run run), atWork]
  apply List.sum_le_sum
  rintro ⟨record, call⟩ mem
  rw [List.mem_zipIdx_iff_getElem?] at mem
  simp only at mem ⊢
  have held : (if record.isBehind 0 then 1 else 0) ≤ ((chronicle.chainsOf call).map (Chain.places 0)).sum := by
    rw [← sum_engaged_eq run mem (count_root_gate switchboard record.method)]
    exact List.sum_le_sum fun chain _ => chain.engaged_le_places 0
  refine le_trans ?_ held
  by_cases counted : (!record.isGivenUp) = true ∧ 0 < (chronicle.chainsOf call).countP Chain.isAtWork
  · rcases counted with ⟨kept, some⟩
    have working : (chronicle.chainsOf call).any Chain.isAtWork = true := by
      rw [List.any_eq_true]
      exact List.countP_pos_iff.mp some
    rw [if_pos kept, if_pos (isBehind_of_isAtWork built run mem working (by simpa using kept))]
    exact countP_isAtWork_le_one built run mem
  · split
    · rename_i kept
      have nothing : ¬ 0 < (chronicle.chainsOf call).countP Chain.isAtWork := fun some => counted ⟨kept, some⟩
      omega
    · exact Nat.zero_le _

theorem isGivenUp_eq_false (built : Switchboard.build methods limits = .ok switchboard)
    (run : (start switchboard surroundings).run? switchboard events = some chronicle)
    (unlimited : ∀ method ∈ methods, method.limits.maximum = .zero) {call : Nat} {record : CallRecord}
    (known : chronicle.calls[call]? = some record) : record.isGivenUp = false := by
  have made := Switchboard.made_of_build built
  rw [← Bool.not_eq_true, isGivenUp_iff run known]
  rintro ⟨position, handler, found, gaveUp⟩
  have law := satisfies_of_run CallLaw.limited run call record known
  rcases law.1 _ gaveUp with ⟨governor, there, limits⟩
  rcases made.find?_eq_some.mp found with ⟨method, place, -, -⟩
  rcases made.enclosure place with ⟨enclosure, inside, idle⟩
  rw [List.getElem?_cons_succ, List.getElem?_map, inside] at there
  rcases Option.some.inj there with rfl
  have none : enclosure.governor.limit = .zero :=
    (congrArg (fun enclosure => enclosure.governor.limit) idle).trans (unlimited method (List.mem_of_getElem? place))
  simp [Governor.hasLimit, none] at limits

/--
At every instant of every run, the handlers at work that the governors of their own methods have not given up on are
no more than the queue limit of the server; where no method has a maximum, these are all handlers at work. Between
two steps of the tasks, a handler at work holds a place among all methods just as long as the governor of its method
has not given up on it, whether or not the governor of the server has and whether or not its caller still waits.
-/
theorem atWork_le_of_run (built : Switchboard.build methods limits = .ok switchboard)
    (run : (start switchboard surroundings).run? switchboard events = some chronicle) :
    chronicle.atWork (fun record => !record.isGivenUp) ≤ limits.queueLimit.toNat ∧
      ((∀ method ∈ methods, method.limits.maximum = .zero) →
        chronicle.atWork (fun _ => true) ≤ limits.queueLimit.toNat) ∧
      (chronicle.isResting = true → ∀ call record, chronicle.calls[call]? = some record →
        (chronicle.chainsOf call).any Chain.isAtWork = true →
          (record.isBehind 0 = true ↔ record.isGivenUp = false)) := by
  have made := Switchboard.made_of_build built
  have bounded : chronicle.atWork (fun record => !record.isGivenUp) ≤ limits.queueLimit.toNat := by
    rcases made.root_gate (orderly_of_run run).serves with ⟨gate, found, -, limit⟩
    have numbers : gate.Holds (chronicle.traffic.chains.map (Chain.places 0)).sum :=
      holds_of_run (made.idle_gates surroundings) run 0 gate found
    rw [← limit]
    exact le_trans (atWork_le_places built run) numbers.withinLimit
  refine ⟨bounded, ?_, ?_⟩
  · intro unlimited
    have everyone : chronicle.atWork (fun _ => true) = chronicle.atWork fun record => !record.isGivenUp := by
      unfold atWork
      congr 1
      apply List.map_congr_left
      rintro ⟨record, call⟩ mem
      rw [List.mem_zipIdx_iff_getElem?] at mem
      simp [isGivenUp_eq_false built run unlimited mem]
    rw [everyone]
    exact bounded
  · intro resting call record known working
    constructor
    · intro behind
      by_contra gaveUp
      have outside := not_isBehind_of_isGivenUp built run resting known (by simpa using gaveUp)
      rw [behind] at outside
      contradiction
    · exact isBehind_of_isAtWork built run known working

/-- A nap that the governor of the method gives up on, and whose caller is told so. -/
def givenUp : List (SwitchboardEvent Unit) :=
  [.call "first" "getNap" .null] ++ comeIn 0 ++
    [.elapse 10000000, .warn 0 0, .elapse 30000000, .expire 0 0, .advance 0, .advance 0, .advance 0, .advance 0]

/-- A nap that the governor of the method gives up on, and then another nap. -/
def napAgain : List (SwitchboardEvent Unit) := givenUp ++ [.call "second" "getNap" .null] ++ comeIn 1

/-- The handler that is still napping does not count, and so the second one takes the only place. -/
theorem atWork_le_napAgain :
    ∃ switchboard chronicle, Switchboard.build [napping "getNap" 5 (.ofMillis 30)] oneAtATime = .ok switchboard ∧
      (start switchboard ()).run? switchboard napAgain = some chronicle ∧
      chronicle.atWork (fun record => !record.isGivenUp) ≤ 1 ∧
      ∃ record, chronicle.calls[0]? = some record ∧ record.isGivenUp = true ∧ record.isBehind 0 = false := by
  rcases Switchboard.exists_run_of_check [napping "getNap" 5 (.ofMillis 30)] oneAtATime () napAgain
      (fun chronicle => chronicle.isResting && (chronicle.chainsOf 0).any Chain.isAtWork &&
        chronicle.calls[0]?.any CallRecord.isGivenUp)
      (by decide +kernel) with
    ⟨switchboard, chronicle, built, run, seen⟩
  rw [Bool.and_eq_true, Bool.and_eq_true, Option.any_eq_true] at seen
  rcases seen with ⟨⟨resting, working⟩, record, known, gaveUp⟩
  rcases atWork_le_of_run built run with ⟨bounded, -, exactly⟩
  refine ⟨switchboard, chronicle, built, run, bounded, record, known, gaveUp, ?_⟩
  rw [← Bool.not_eq_true, exactly resting 0 record known working, gaveUp]
  simp

/-- A server that takes one call at a time, and on which two handlers are at work. -/
theorem two_at_work_one_at_a_time :
    ∃ switchboard chronicle, Switchboard.build [napping "getNap" 5 (.ofMillis 30)] oneAtATime = .ok switchboard ∧
      (start switchboard ()).run? switchboard napAgain = some chronicle ∧ chronicle.isResting = true ∧
      oneAtATime.queueLimit.toNat < chronicle.atWork fun _ => true := by
  rcases Switchboard.exists_run_of_check [napping "getNap" 5 (.ofMillis 30)] oneAtATime () napAgain
      (fun chronicle =>
        chronicle.isResting && decide (oneAtATime.queueLimit.toNat < chronicle.atWork fun _ => true))
      (by decide +kernel) with
    ⟨switchboard, chronicle, built, run, seen⟩
  rw [Bool.and_eq_true, decide_eq_true_eq] at seen
  exact ⟨switchboard, chronicle, built, run, seen.1, seen.2⟩

end Chronicle

end LedgerService

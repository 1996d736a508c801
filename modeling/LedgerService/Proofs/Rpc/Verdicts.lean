import LedgerService.Proofs.Rpc.Route
import LedgerService.Proofs.Traffic.Candor
import LedgerService.Proofs.Traffic.Promptness

/-!
# Verdicts

How the call of a method is recorded. It is recorded just once, unless the gate of all methods refuses it; it is
recorded as refused just when the gate of its method refuses it, and as too long just when the governor of its
method gives up on it. Each of these is an equation that holds at every step of the call: what is to be recorded is
either recorded or still carried by a chain of the call.
-/

namespace LedgerService

variable {σ : Type}

/-- No panic is recorded as such, and the refusal of a governor has passed the governor of the method. -/
structure Chain.Judged (name : String) (chain : Chain σ) : Prop where
  panic : ∀ text, chain.focus = .leaving (.panicked text) → .record name ∉ chain.duties
  expiry : chain.verdict = some "execution_duration_exceeded" →
    ∀ frame ∈ chain.waits.map Wait.frame, frame = .root

/-- The call has been recorded for an endpoint. -/
def CallFact.isRecorded (endpoint : String) : CallFact → Bool
  | .recorded other _ => other == endpoint
  | _ => false

theorem Chain.countP_returned (chain : Chain σ) (endpoint : String) :
    chain.returned.countP (CallFact.isRecorded endpoint) = 0 := by
  unfold returned
  split <;> rfl

theorem Duty.countP_noted (duty : Duty) {ending : Ending} (labelled : ending.status?.isSome) (endpoint : String) :
    (duty.noted ending).countP (CallFact.isRecorded endpoint) = [duty].count (.record endpoint) := by
  rcases Option.isSome_iff_exists.mp labelled with ⟨label, same⟩
  cases duty with
  | leave gate => simp [noted]
  | record other => simp [noted, same, CallFact.isRecorded, List.count_cons, List.countP_cons]

theorem Ending.eq_panicked {ending : Ending} (unlabelled : ending.status? = none) : ∃ text, ending = .panicked text := by
  cases ending with
  | answered result => cases result <;> contradiction
  | panicked text => exact ⟨text, rfl⟩

/-- The innermost wait of a cut chain holds what is to be recorded for the method if it is at the method's governor. -/
theorem Chain.Fits.count_outer {chain : Chain σ} {name : String} {position place : Nat} {wait : Wait}
    (fits : chain.Fits (Switchboard.rootLayers ++ Switchboard.methodLayers name position))
    (found : chain.waits[place]? = some wait) (ending : Ending) :
    (chain.outer place wait ending).owed.count (.record name) = [wait.governor].count (position + 1) := by
  have mine := fits.frames wait (List.mem_of_getElem? found)
  have root : ∀ other ∈ chain.waits.drop (place + 1), other.frame = .method name position ∨ other.frame = .root :=
    fun other mem => .inr (fits.outside place other mem)
  have all : ∀ other ∈ wait :: chain.waits.drop (place + 1),
      other.frame = .method name position ∨ other.frame = .root := by
    rw [List.forall_mem_cons]
    exact ⟨mine, root⟩
  have others : ((chain.waits.drop (place + 1)).map Wait.governor).count (position + 1) = 0 := by
    rw [List.count_eq_zero, List.mem_map]
    rintro ⟨other, mem, same⟩
    have zero : other.governor = 0 := congrArg Frame.governor (fits.outside place other mem)
    omega
  have counted := Chain.count_duties all (.inl rfl : Duty.record name = .record name ∨ _)
  rw [List.flatMap_cons, List.map_cons, count_cons_split _ wait.governor, others, Nat.add_zero] at counted
  exact counted

namespace Move

variable {traffic left : Traffic σ} {chain : Chain σ} {facts : List CallFact} {parts : List (Chain σ)}
  {name : String} {position : Nat}

theorem judged (move : Move traffic chain facts left parts)
    (fits : chain.Fits (Switchboard.rootLayers ++ Switchboard.methodLayers name position)) (candid : chain.Candid)
    (known : ∀ layer ∈ Switchboard.rootLayers ++ Switchboard.methodLayers name position, traffic.Knows layer)
    (judged : chain.Judged name) : ∀ part ∈ parts, part.Judged name := by
  cases move with
  | refuse focus found full =>
      rw [List.forall_mem_singleton]
      refine ⟨by simp, ?_⟩
      simp [Chain.verdict, Ending.status?, Gate.refusal, RequestError.category]
  | finish focus =>
      rw [List.forall_mem_singleton]
      rw [Chain.Candid, focus] at candid
      cases candid with
      | done candid =>
          refine ⟨fun _ _ => ?_, fun exceeded => ?_⟩
          · simp [fits.duties_of_isAtWork (by simp [Chain.isAtWork, focus])]
          · exact absurd exceeded (candid.status?_ne (.inr rfl))
  | discharge focus ahead =>
      rw [List.forall_mem_singleton]
      refine ⟨fun text panicked mem => ?_, judged.expiry⟩
      exact judged.panic text panicked (ahead ▸ List.mem_cons_of_mem _ mem)
  | @resume ending wait waits focus free outside =>
      rw [List.forall_mem_singleton]
      have there : traffic.Knows (.governor wait.governor) := by
        apply known
        rcases fits.frames wait (by simp [outside]) with same | same
        · simp [Switchboard.methodLayers, show wait.governor = position + 1 from congrArg Frame.governor same]
        · simp [Switchboard.rootLayers, show wait.governor = 0 from congrArg Frame.governor same]
      have governor := List.getElem?_eq_getElem (l := traffic.governors) there
      refine ⟨fun text panicked => ?_, fun exceeded => ?_⟩
      · simp only [Traffic.containedBy, governor, Focus.leaving.injEq] at panicked
        cases ending <;> simp [Ending.contained] at panicked
      · have before := judged.expiry
        simp only [Chain.verdict, focus, traffic.status?_containedBy wait ending (.inr rfl)] at exceeded before
        have all := before exceeded
        rw [outside, List.map_cons] at all
        exact fun frame mem => all frame (List.mem_cons_of_mem _ mem)
  | answer => simp
  | warn found due reached =>
      rw [List.forall_mem_singleton]
      refine ⟨judged.panic, fun exceeded => ?_⟩
      rw [Chain.frames_warned found]
      exact judged.expiry exceeded
  | expire found due reached governor =>
      intro part mem
      rcases List.mem_pair.mp mem with rfl | rfl
      · refine ⟨by simp [Chain.outer], fun _ => ?_⟩
        rw [List.forall_mem_map]
        exact fits.outside _
      · refine ⟨judged.panic, fun exceeded => ?_⟩
        rw [Chain.inner, List.map_take]
        exact fun frame mem => judged.expiry exceeded frame (List.mem_of_mem_take mem)
  | _ =>
      rw [List.forall_mem_singleton]
      exact ⟨by simp [*], by simp [Chain.verdict, *]⟩

/-- What is to be recorded for the method is recorded, or refused by the gate of all methods. -/
theorem recordings (move : Move traffic chain facts left parts)
    (fits : chain.Fits (Switchboard.rootLayers ++ Switchboard.methodLayers name position))
    (judged : chain.Judged name) :
    facts.countP (CallFact.isRecorded name) + (parts.map fun part => part.owed.count (.record name)).sum +
        (parts.map fun part => part.ahead.count (.sample name)).sum + facts.count (.refused 0) =
      chain.owed.count (.record name) + chain.ahead.count (.sample name) := by
  cases move with
  | refuse focus found full =>
      rw [List.countP_append, Chain.countP_returned, List.count_append, Chain.count_returned_of_ne _ (by simp)]
      rcases fits.before_gate focus with ⟨rfl, rfl, -⟩ | ⟨rfl, rfl, -⟩
      · simp [CallFact.isRecorded, Chain.owed, Chain.ahead, focus, Switchboard.methodLayers]
      · simp [CallFact.isRecorded, Chain.owed, Chain.ahead, focus]
  | letIn focus found room => simp [CallFact.isRecorded, Chain.owed, Chain.ahead, focus]
  | sample focus =>
      simp only [Chain.owed, Chain.ahead, focus, List.cons_append, List.map_singleton, List.sum_singleton,
        List.count_cons, List.countP_nil, List.count_nil, beq_iff_eq, Duty.record.injEq, Layer.sample.injEq]
      omega
  | finish focus =>
      rw [Chain.countP_returned, Chain.count_returned_of_ne _ (by simp)]
      simp [Chain.owed, Chain.ahead, focus]
  | @discharge ending duty duties focus ahead =>
      rw [List.countP_append, Chain.countP_returned, List.count_append, Chain.count_returned_of_ne _ (by simp),
        count_noted_of_ne _ _ (by simp)]
      have once : (duty.noted ending).countP (CallFact.isRecorded name) = [duty].count (.record name) := by
        cases labelled : ending.status? with
        | some label => exact duty.countP_noted (by simp [labelled]) name
        | none =>
            rcases Ending.eq_panicked labelled with ⟨text, rfl⟩
            have other := judged.panic text focus
            rw [ahead, List.mem_cons, not_or] at other
            rw [duty.noted_panicked, List.countP_nil, List.count_singleton, if_neg]
            simpa using Ne.symm other.1
      have split : (duty :: duties ++ chain.waits.flatMap Wait.duties).count (.record name) =
          [duty].count (.record name) + (duties ++ chain.waits.flatMap Wait.duties).count (.record name) :=
        count_cons_split _ duty _
      simp [Chain.owed, Chain.ahead, focus, ahead, once] at split ⊢
      omega
  | resume focus free outside =>
      rw [Chain.countP_returned, Chain.count_returned_of_ne _ (by simp)]
      simp [Chain.owed, Chain.ahead, focus, free, outside]
  | answer focus free alone => simp [Chain.owed, Chain.ahead, focus, free, alone]
  | warn found due reached => simp [CallFact.isRecorded, Chain.owed, Chain.ahead, Chain.duties_warned found]
  | @expire place wait _ governor found due reached known =>
      rw [chain.outer_returned place wait (.answered (.error governor.refusal)), List.countP_append,
        Chain.countP_returned, List.count_append, Chain.count_returned_of_ne _ (by simp),
        ← Chain.count_owed_cut found (.answered (.error governor.refusal))]
      simp [CallFact.isRecorded, Chain.ahead, Chain.outer, Chain.inner]
  | _ => simp [Chain.owed, Chain.ahead, *]

/-- What is recorded as refused is what the gate of the method has refused. -/
theorem backlogged (move : Move traffic chain facts left parts)
    (fits : chain.Fits (Switchboard.rootLayers ++ Switchboard.methodLayers name position)) (candid : chain.Candid)
    (waiting : chain.ahead ≠ [] → chain.caller.isSome)
    (early : 0 < chain.carries name "backlog_full" → chain.Early traffic.now) :
    facts.count (.recorded name "backlog_full") + (parts.map (Chain.carries name "backlog_full")).sum =
      chain.carries name "backlog_full" + facts.count (.refused (position + 1)) := by
  have steady := move.steady candid name (.inl rfl)
  cases move with
  | refuse focus found full =>
      have none : chain.carries name "backlog_full" = 0 := Chain.carries_eq_zero (by simp [Chain.verdict, focus])
      rw [List.count_append, Chain.count_returned_of_ne _ (by simp), List.count_append,
        Chain.count_returned_of_ne _ (by simp), none, List.map_singleton, List.sum_singleton, Chain.carries,
        if_pos (by simp [Chain.verdict, Ending.status?, Gate.refusal, RequestError.category])]
      rcases fits.before_gate focus with ⟨rfl, rfl, nothing⟩ | ⟨rfl, rfl, something⟩
      · simpa [Chain.owed] using nothing
      · simpa [Chain.owed] using something (waiting (by simp [Chain.ahead, focus]))
  | @expire place wait _ governor found due reached known =>
      have other : (chain.outer place wait (.answered (.error governor.refusal))).carries name "backlog_full" = 0 :=
        Chain.carries_eq_zero (by simp [Chain.verdict, Chain.outer, Ending.status?, Governor.refusal,
          RequestError.category])
      have none : chain.carries name "backlog_full" = 0 := by
        by_contra some
        have later := (early (Nat.pos_of_ne_zero some) wait (List.mem_of_getElem? found)).2 _ due
        omega
      have inner : (chain.inner place).carries name "backlog_full" = 0 := by
        have cut := Chain.carries_cut found (.answered (.error governor.refusal)) name "backlog_full"
        omega
      rw [chain.outer_returned place wait (.answered (.error governor.refusal)), List.count_append,
        Chain.count_returned_of_ne _ (by simp), List.count_append, Chain.count_returned_of_ne _ (by simp)]
      simp [other, none, inner]
  | _ =>
      rw [steady (by simp [Chain.not_mem_returned, not_mem_noted]) (by simp [Chain.not_mem_returned, not_mem_noted])]
      simp [Chain.count_returned_of_ne, count_noted_of_ne]

/-- What is recorded as too long is what the governor of the method has given up on. -/
theorem exceeded (move : Move traffic chain facts left parts)
    (fits : chain.Fits (Switchboard.rootLayers ++ Switchboard.methodLayers name position)) (candid : chain.Candid)
    (judged : chain.Judged name) :
    facts.count (.recorded name "execution_duration_exceeded") +
        (parts.map (Chain.carries name "execution_duration_exceeded")).sum =
      chain.carries name "execution_duration_exceeded" + facts.count (.expired (position + 1)) := by
  have steady := move.steady candid name (.inr rfl)
  cases move with
  | refuse focus found full =>
      rw [List.count_append, Chain.count_returned_of_ne _ (by simp), List.count_append,
        Chain.count_returned_of_ne _ (by simp), Chain.carries_eq_zero (by simp [Chain.verdict, focus]),
        List.map_singleton, List.sum_singleton, Chain.carries_eq_zero]
      · simp
      · simp [Chain.verdict, Ending.status?, Gate.refusal, RequestError.category]
  | @expire place wait _ governor found due reached known =>
      have outer : (chain.outer place wait (.answered (.error governor.refusal))).carries name
          "execution_duration_exceeded" = [wait.governor].count (position + 1) := by
        rw [← fits.count_outer found, Chain.carries, if_pos]
        simp [Chain.verdict, Chain.outer, Ending.status?, Governor.refusal, RequestError.category]
      -- A chain that another governor has given up on has no wait at the governor of its method.
      have inner : chain.carries name "execution_duration_exceeded" =
          (chain.inner place).carries name "execution_duration_exceeded" := by
        rw [Chain.carries_cut found (.answered (.error governor.refusal)), fits.count_outer found]
        split
        · rename_i verdict
          have root := judged.expiry verdict wait.frame (List.mem_map_of_mem (List.mem_of_getElem? found))
          have zero : wait.governor = 0 := congrArg Frame.governor root
          simp [zero]
        · rfl
      rw [chain.outer_returned place wait (.answered (.error governor.refusal)), List.count_append,
        Chain.count_returned_of_ne _ (by simp), List.count_append, Chain.count_returned_of_ne _ (by simp)]
      simp only [List.map_cons, List.map_nil, List.sum_cons, List.sum_nil, outer, inner, List.count_singleton,
        beq_iff_eq, CallFact.expired.injEq, reduceCtorEq, if_false]
      omega
  | _ =>
      rw [steady (by simp [Chain.not_mem_returned, not_mem_noted]) (by simp [Chain.not_mem_returned, not_mem_noted])]
      simp [Chain.count_returned_of_ne, count_noted_of_ne]

end Move

/-- What the record of a call of a method says is what becomes of the call. -/
structure CallRecord.Accounted (name : String) (position : Nat) (record : CallRecord) (chains : List (Chain σ)) :
    Prop where
  recordings : record.facts.countP (CallFact.isRecorded name) +
    (chains.map fun chain => chain.owed.count (.record name)).sum +
    (chains.map fun chain => chain.ahead.count (.sample name)).sum + record.facts.count (.refused 0) = 1
  backlogged : record.facts.count (.recorded name "backlog_full") +
    (chains.map (Chain.carries name "backlog_full")).sum = record.facts.count (.refused (position + 1))
  exceeded : record.facts.count (.recorded name "execution_duration_exceeded") +
    (chains.map (Chain.carries name "execution_duration_exceeded")).sum = record.facts.count (.expired (position + 1))

namespace CallLaw

variable {switchboard : Switchboard σ}

/-- The endings of the chains of a call tell what happened to the call. -/
theorem judged (sound : switchboard.Sound) :
    CallLaw switchboard (fun _ _ => true)
      (fun _ record chains =>
        (∀ chain ∈ chains, chain.Fits (switchboard.layers record.method)) ∧ ∀ chain ∈ chains, chain.Candid)
      fun _ record chains => ∀ chain ∈ chains, ∀ position handler,
        switchboard.methods.find? record.method = some (position, handler) → chain.Judged record.method := by
  apply CallLaw.ofChains (fun method chain => chain.Fits (switchboard.layers method) ∧ chain.Candid)
    fun method chain => ∀ position handler,
      switchboard.methods.find? method = some (position, handler) → chain.Judged method
  · exact fun known chain mem => ⟨known.1 chain mem, known.2 chain mem⟩
  · intro caller method params position handler found
    exact ⟨by simp, by simp [Chain.verdict]⟩
  · rintro traffic left method chain facts parts serves ⟨fits, candid⟩ judged move part mem position handler found
    have known := sound.knows serves method
    rw [Switchboard.layers_of_some found] at fits known
    exact move.judged fits candid known (judged position handler found) part mem
  · rintro traffic left caller method chain facts parts - - - judged withdrawal part mem position handler found
    cases withdrawal with
    | vanish => simp at mem
    | detach outside =>
        rcases List.mem_singleton.mp mem with rfl
        have before := judged position handler found
        refine ⟨before.panic, fun exceeded frame mem => before.expiry exceeded frame ?_⟩
        rw [outside, List.map_append]
        exact List.mem_append_left _ mem

/-- As long as callers stay, every call of a method is accounted for. -/
theorem accounted :
    CallLaw switchboard (fun _ event => !event.isWithdrawal)
      (fun now record chains =>
        (((∀ chain ∈ chains, chain.Fits (switchboard.layers record.method)) ∧ ∀ chain ∈ chains, chain.Candid) ∧
          ∀ chain ∈ chains, ∀ position handler,
            switchboard.methods.find? record.method = some (position, handler) → chain.Judged record.method) ∧
        (record.Refused → ∀ chain ∈ chains, chain.Leaving) ∧
        (record.Refused ∨ (∃ chain ∈ chains, chain.ahead ≠ []) → record.Prompt now chains))
      fun _ record chains => ∀ position handler,
        switchboard.methods.find? record.method = some (position, handler) →
          record.Accounted record.method position chains where
  call now caller method params position handler found := by
    have layers := Switchboard.layers_of_some found
    refine ⟨?_, ?_, ?_⟩
    · simp [Chain.owed, Chain.ahead, layers, Switchboard.rootLayers, Switchboard.methodLayers]
    · simp [Chain.carries, Chain.verdict]
    · simp [Chain.carries, Chain.verdict]
  move := by
    intro traffic left record before chain after facts parts serves known holds move position handler found
    rw [CallRecord.add_method] at found ⊢
    rcases known with ⟨⟨⟨way, candor⟩, judgements⟩, -, prompt⟩
    have there : chain ∈ before ++ chain :: after := List.mem_append_right _ List.mem_cons_self
    have fits := way chain there
    have candid := candor chain there
    have judged := judgements chain there position handler found
    rw [Switchboard.layers_of_some found] at fits
    have accounted := holds position handler found
    have waiting : chain.ahead ≠ [] → chain.caller.isSome := fun entering =>
      ((prompt (.inr ⟨chain, there, entering⟩)).early chain there).1
    have early : 0 < chain.carries record.method "backlog_full" → chain.Early traffic.now := by
      intro carries
      have refused : 0 < record.facts.count (.refused (position + 1)) := by
        have counted := accounted.backlogged
        simp only [List.map_append, List.map_cons, List.sum_append, List.sum_cons] at counted
        omega
      exact ((prompt (.inl ⟨_, List.count_pos_iff.mp refused⟩)).early chain there).2
    have recordings := move.recordings fits judged
    have backlogged := move.backlogged fits candid waiting early
    have exceeded := move.exceeded fits candid judged
    rcases accounted with ⟨one, two, three⟩
    simp only [List.map_append, List.map_cons, List.sum_append, List.sum_cons] at one two three
    refine ⟨?_, ?_, ?_⟩
    · simp only [CallRecord.add_facts, List.countP_append, List.count_append, List.map_append, List.sum_append]
      omega
    · simp only [CallRecord.add_facts, List.count_append, List.map_append, List.sum_append]
      omega
    · simp only [CallRecord.add_facts, List.count_append, List.map_append, List.sum_append]
      omega
  withdraw allows := by simp [SwitchboardEvent.isWithdrawal] at allows
  elapse _ _ _ holds := holds

end CallLaw

end LedgerService

import LedgerService.Proofs.Traffic.Chronicle
import Mathlib.Data.List.Basic
import Mathlib.Data.Option.Basic

/-!
# Moves

What one event can do to one chain, said once. `Move` lists what becomes of a chain when its innermost task goes
on, or when one of its waiting tasks is warned or gives up; `Withdrawal` lists what becomes of it when its caller
goes away. `Chronicle.Step` is what an event does to a chronicle as a whole, and `Chronicle.step_of_step?` says
that nothing else can happen.
-/

namespace LedgerService

variable {σ : Type}

/--
What can become of a chain in some traffic: the facts that this means for its call, the traffic but for its chains,
and the chains that replace it.
-/
inductive Move (traffic : Traffic σ) (chain : Chain σ) :
    List CallFact → Traffic σ → List (Chain σ) → Prop where
  | missGate {index layers work}
      (focus : chain.focus = .entering (.gate index :: layers) work)
      (missing : traffic.gates[index]? = none) :
      Move traffic chain [] traffic [{ chain with focus := .entering layers work }]
  | refuse {index layers work gate}
      (focus : chain.focus = .entering (.gate index :: layers) work)
      (found : traffic.gates[index]? = some gate) (full : gate.isFull = true) :
      Move traffic chain
        (({ chain with focus := .leaving (.answered (.error gate.refusal)) } : Chain σ).returned ++
          [.refused index])
        (traffic.adjustGate index Gate.turnAway)
        [{ chain with focus := .leaving (.answered (.error gate.refusal)) }]
  | letIn {index layers work gate}
      (focus : chain.focus = .entering (.gate index :: layers) work)
      (found : traffic.gates[index]? = some gate) (room : gate.isFull = false) :
      Move traffic chain [.admitted index] (traffic.adjustGate index Gate.letIn)
        [{ chain with duties := .leave index :: chain.duties, focus := .entering layers work }]
  | missGovernor {index layers work}
      (focus : chain.focus = .entering (.governor index :: layers) work)
      (missing : traffic.governors[index]? = none) :
      Move traffic chain [] traffic [{ chain with focus := .entering layers work }]
  | govern {index layers work governor}
      (focus : chain.focus = .entering (.governor index :: layers) work)
      (found : traffic.governors[index]? = some governor) :
      Move traffic chain [] traffic
        [{ chain with
            waits := ⟨chain.duties, index, governor.warnAt? traffic.now, governor.expireAt? traffic.now⟩ ::
              chain.waits
            duties := []
            focus := .entering layers work }]
  | sample {endpoint layers work}
      (focus : chain.focus = .entering (.sample endpoint :: layers) work) :
      Move traffic chain [] traffic
        [{ chain with duties := .record endpoint :: chain.duties, focus := .entering layers work }]
  | finish {ending}
      (focus : chain.focus = .entering [] (.done ending)) :
      Move traffic chain ({ chain with focus := .leaving ending } : Chain σ).returned traffic
        [{ chain with focus := .leaving ending }]
  | pause {duration rest}
      (focus : chain.focus = .entering [] (.pause duration rest)) :
      Move traffic chain [] traffic
        [{ chain with focus := .asleep (traffic.now + duration.nanoseconds) rest }]
  | consult {change next}
      (focus : chain.focus = .entering [] (.consult change next)) :
      Move traffic chain [] { traffic with surroundings := change traffic.surroundings }
        [{ chain with focus := .entering [] (next traffic.surroundings) }]
  | wake {wakeAt rest}
      (focus : chain.focus = .asleep wakeAt rest) :
      Move traffic chain [] traffic [{ chain with focus := .entering [] rest }]
  | discharge {ending duty duties}
      (focus : chain.focus = .leaving ending) (ahead : chain.duties = duty :: duties) :
      Move traffic chain (Chain.returned { chain with duties } ++ duty.noted ending)
        (traffic.discharge ending duty) [{ chain with duties }]
  | resume {ending wait waits}
      (focus : chain.focus = .leaving ending) (free : chain.duties = []) (outside : chain.waits = wait :: waits) :
      Move traffic chain
        ({ chain with
            waits, duties := wait.duties, focus := .leaving (traffic.containedBy wait ending) } : Chain σ).returned
        traffic
        [{ chain with waits, duties := wait.duties, focus := .leaving (traffic.containedBy wait ending) }]
  | answer {ending}
      (focus : chain.focus = .leaving ending) (free : chain.duties = []) (alone : chain.waits = []) :
      Move traffic chain [] (traffic.report chain.caller (.ended ending)) []
  | warn {position wait instant}
      (found : chain.waits[position]? = some wait) (due : wait.warnAt = some instant)
      (reached : instant ≤ traffic.now) :
      Move traffic chain [.warned wait.governor] (traffic.adjustGovernor wait.governor Governor.warn)
        [{ chain with waits := chain.waits.set position { wait with warnAt := none } }]
  | expire {position wait instant governor}
      (found : chain.waits[position]? = some wait) (due : wait.expireAt = some instant)
      (reached : instant ≤ traffic.now) (known : traffic.governors[wait.governor]? = some governor) :
      Move traffic chain ((wait.duties.head?.bind Duty.returned).toList ++ [.expired wait.governor])
        (traffic.adjustGovernor wait.governor Governor.expire)
        [chain.outer position wait (.answered (.error governor.refusal)), chain.inner position]

/-- What can become of a chain whose caller goes away. -/
inductive Withdrawal (traffic : Traffic σ) (chain : Chain σ) :
    List CallFact → Traffic σ → List (Chain σ) → Prop where
  | vanish (alone : chain.waits = []) :
      Withdrawal traffic chain (chain.outstanding.filterMap Duty.returned)
        ((traffic.abandon chain.duties).report chain.caller .withdrawn) []
  | detach {waits outermost} (outside : chain.waits = waits ++ [outermost]) :
      Withdrawal traffic chain (outermost.duties.filterMap Duty.returned)
        ((traffic.abandon outermost.duties).report chain.caller .withdrawn)
        [{ chain with caller := none, waits }]

namespace Traffic

@[simp]
theorem discharge_replaceChain (traffic : Traffic σ) (index : Nat) (chains : List (Chain σ)) (ending : Ending)
    (duty : Duty) :
    (traffic.replaceChain index chains).discharge ending duty =
      (traffic.discharge ending duty).replaceChain index chains := by
  cases duty with
  | leave gate => rfl
  | record endpoint => cases h : ending.status? <;> simp [discharge, replaceChain, h]

@[simp]
theorem abandon_replaceChain (traffic : Traffic σ) (index : Nat) (chains : List (Chain σ))
    (duties : List Duty) :
    (traffic.replaceChain index chains).abandon duties = (traffic.abandon duties).replaceChain index chains := by
  induction duties generalizing traffic with
  | nil => rfl
  | cons duty duties ih => simpa [abandon] using ih (traffic.discharge (.panicked none) duty)

@[simp]
theorem report_replaceChain (traffic : Traffic σ) (index : Nat) (chains : List (Chain σ))
    (caller : Option String) (outcome : Outcome) :
    (traffic.replaceChain index chains).report caller outcome =
      (traffic.report caller outcome).replaceChain index chains := by
  cases caller <;> rfl

@[simp]
theorem adjustGovernor_replaceChain (traffic : Traffic σ) (index : Nat) (chains : List (Chain σ))
    (governor : Nat) (change : Governor → Governor) :
    (traffic.replaceChain index chains).adjustGovernor governor change =
      (traffic.adjustGovernor governor change).replaceChain index chains :=
  rfl

theorem move_of_advance (traffic : Traffic σ) (chain : Chain σ) :
    Move traffic chain (traffic.advanceFacts chain) (traffic.advanceChain chain).1
      (traffic.advanceChain chain).2.toList := by
  cases focus : chain.focus with
  | entering layers work =>
      rcases layers with _ | ⟨_ | _ | _, layers⟩
      · cases work with
        | done ending => simpa [advanceFacts, advanceChain, enter, focus] using Move.finish focus
        | pause duration rest =>
            simpa [advanceFacts, advanceChain, enter, focus, Chain.returned] using Move.pause focus
        | consult change next =>
            simpa [advanceFacts, advanceChain, enter, focus, Chain.returned] using Move.consult focus
      · rename_i index
        cases found : traffic.gates[index]? with
        | none =>
            simpa [advanceFacts, advanceChain, enter, focus, found, Chain.returned] using
              Move.missGate focus found
        | some gate =>
            cases full : gate.isFull with
            | true =>
                simpa [advanceFacts, advanceChain, enter, focus, found, full] using
                  Move.refuse focus found full
            | false =>
                simpa [advanceFacts, advanceChain, enter, focus, found, full, Chain.returned] using
                  Move.letIn focus found full
      · rename_i index
        cases found : traffic.governors[index]? with
        | none =>
            simpa [advanceFacts, advanceChain, enter, focus, found, Chain.returned] using
              Move.missGovernor focus found
        | some governor =>
            simpa [advanceFacts, advanceChain, enter, focus, found, Chain.returned] using
              Move.govern focus found
      · simpa [advanceFacts, advanceChain, enter, focus, Chain.returned] using Move.sample focus
  | asleep wakeAt rest =>
      simpa [advanceFacts, advanceChain, focus, Chain.returned] using Move.wake focus
  | leaving ending =>
      cases ahead : chain.duties with
      | cons duty duties =>
          simpa [advanceFacts, advanceChain, leave, focus, ahead] using Move.discharge focus ahead
      | nil =>
          cases outside : chain.waits with
          | nil =>
              simpa [advanceFacts, advanceChain, leave, focus, ahead, outside] using
                Move.answer focus ahead outside
          | cons wait waits =>
              simpa [advanceFacts, advanceChain, leave, focus, ahead, outside] using
                Move.resume focus ahead outside

theorem withdrawal_of_withdrawChain (traffic : Traffic σ) (index : Nat) (chain : Chain σ) :
    ∃ left parts, Withdrawal traffic chain chain.withdrawal left parts ∧
      parts.length = min chain.waits.length 1 ∧
      traffic.withdrawChain index chain = left.replaceChain index parts := by
  rcases List.eq_nil_or_concat' chain.waits with alone | ⟨waits, outermost, outside⟩
  · refine ⟨_, _, by simpa [Chain.withdrawal, alone] using Withdrawal.vanish alone, ?_, ?_⟩
    · simp [alone]
    · simp [withdrawChain, alone]
  · refine ⟨_, _, by simpa [Chain.withdrawal, outside] using Withdrawal.detach outside, ?_, ?_⟩
    · simp [outside]
    · simp [withdrawChain, outside]

end Traffic

namespace Switchboard

/-- The layers that a call of a method passes, whatever its parameters are. -/
def layers (switchboard : Switchboard σ) (method : String) : List Layer := (switchboard.route method .null).1

theorem route_fst (switchboard : Switchboard σ) (method : String) (params : Json) :
    (switchboard.route method params).1 = switchboard.layers method := by
  unfold layers route
  split <;> rfl

end Switchboard

namespace Chronicle

/-- What an event does to a chronicle. -/
inductive Step (switchboard : Switchboard σ) (chronicle : Chronicle σ) :
    SwitchboardEvent σ → Chronicle σ → Prop where
  | call (caller method : String) (params : Json) :
      Step switchboard chronicle (.call caller method params)
        (chronicle.enroll method
          { chronicle.traffic with
            chains := chronicle.traffic.chains ++
              [⟨some caller, [], [], .entering (switchboard.layers method) (switchboard.route method params).2⟩] })
  | move {event index owner chain facts traffic parts}
      (found : chronicle.traffic.chains[index]? = some chain) (owned : chronicle.owners[index]? = some owner)
      (move : Move chronicle.traffic chain facts traffic parts) :
      Step switchboard chronicle event
        (chronicle.note owner ⟨index, facts, parts.length⟩ (traffic.replaceChain index parts))
  | withdraw {caller index owner chain facts traffic parts}
      (found : chronicle.traffic.chains[index]? = some chain) (owned : chronicle.owners[index]? = some owner)
      (waiting : chain.caller = some caller) (withdrawal : Withdrawal chronicle.traffic chain facts traffic parts) :
      Step switchboard chronicle (.withdraw caller)
        (chronicle.note owner ⟨index, facts, parts.length⟩ (traffic.replaceChain index parts))
  | elapse {instant} (later : chronicle.traffic.now ≤ instant) :
      Step switchboard chronicle (.elapse instant)
        { chronicle with traffic := { chronicle.traffic with now := instant } }
  | disturb (surroundings : σ) :
      Step switchboard chronicle (.disturb surroundings)
        { chronicle with traffic := { chronicle.traffic with surroundings } }

/-- Every chain has an owner. -/
def Balanced (chronicle : Chronicle σ) : Prop := chronicle.owners.length = chronicle.traffic.chains.length

theorem Balanced.owner {chronicle : Chronicle σ} (balanced : chronicle.Balanced) {index : Nat} {chain : Chain σ}
    (found : chronicle.traffic.chains[index]? = some chain) :
    ∃ owner, chronicle.owners[index]? = some owner := by
  have bound := (List.getElem?_eq_some_iff.mp found).1
  rw [← balanced] at bound
  exact ⟨_, List.getElem?_eq_getElem bound⟩

/-- Nothing else can happen to a chronicle than a step. -/
theorem step_of_step? {switchboard : Switchboard σ} {chronicle next : Chronicle σ} {event : SwitchboardEvent σ}
    (balanced : chronicle.Balanced) (happened : chronicle.step? switchboard event = some next) :
    Step switchboard chronicle event next := by
  rcases Option.map_eq_some_iff.mp happened with ⟨traffic, reacts, rfl⟩
  cases event with
  | call caller method params =>
      simp only [Traffic.react?, Switchboard.arrival, Traffic.step?, Option.some.injEq] at reacts
      subst reacts
      rw [Switchboard.route_fst]
      exact .call caller method params
  | advance index =>
      simp only [Traffic.react?, Traffic.step?, Option.bind_eq_bind, Option.bind_eq_some_iff] at reacts
      rcases reacts with ⟨chain, found, ⟨⟩, ready, reacts⟩
      rcases balanced.owner found with ⟨owner, owned⟩
      rcases Option.some.inj reacts with rfl
      have step : Step switchboard chronicle (.advance index) _ :=
        .move found owned (chronicle.traffic.move_of_advance chain)
      simpa [account, Traffic.turn?, found, owned] using step
  | warn index position =>
      simp only [Traffic.react?, Traffic.step?, Option.bind_eq_bind, Option.bind_eq_some_iff] at reacts
      rcases reacts with ⟨chain, found, wait, waits, instant, due, ⟨⟩, reached, reacts⟩
      rcases balanced.owner found with ⟨owner, owned⟩
      rcases Option.some.inj reacts with rfl
      have step : Step switchboard chronicle (.warn index position) _ :=
        .move found owned (Move.warn waits due ((Option.guard_eq_some' _).mp reached))
      simpa [account, Traffic.turn?, found, owned, waits] using step
  | expire index position =>
      simp only [Traffic.react?, Traffic.step?, Option.bind_eq_bind, Option.bind_eq_some_iff] at reacts
      rcases reacts with ⟨chain, found, wait, waits, instant, due, ⟨⟩, reached, governor, known, reacts⟩
      rcases balanced.owner found with ⟨owner, owned⟩
      rcases Option.some.inj reacts with rfl
      have step : Step switchboard chronicle (.expire index position) _ :=
        .move found owned (Move.expire waits due ((Option.guard_eq_some' _).mp reached) known)
      simpa [account, Traffic.turn?, found, owned, waits] using step
  | withdraw caller =>
      simp only [Traffic.react?, Traffic.step?, Option.bind_eq_bind, Option.bind_eq_some_iff] at reacts
      rcases reacts with ⟨index, first, chain, found, reacts⟩
      rcases balanced.owner found with ⟨owner, owned⟩
      rcases chronicle.traffic.withdrawal_of_withdrawChain index chain with
        ⟨left, parts, withdrawal, count, same⟩
      have waiting : chain.caller = some caller := by
        rcases List.findIdx?_eq_some_iff_getElem.mp first with ⟨bound, waiting, -⟩
        rw [List.getElem?_eq_getElem bound, Option.some.injEq] at found
        simpa [found] using waiting
      rcases Option.some.inj reacts with rfl
      simpa [account, Traffic.turn?, first, found, owned, count, same] using
        Step.withdraw found owned waiting withdrawal
  | elapse instant =>
      simp only [Traffic.react?, Traffic.step?, Option.bind_eq_bind, Option.bind_eq_some_iff] at reacts
      rcases reacts with ⟨⟨⟩, later, reacts⟩
      rcases Option.some.inj reacts with rfl
      exact .elapse ((Option.guard_eq_some' _).mp later)
  | disturb surroundings =>
      rcases Option.some.inj reacts with rfl
      exact .disturb surroundings

end Chronicle

end LedgerService

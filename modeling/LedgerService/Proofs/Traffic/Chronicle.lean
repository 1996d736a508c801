import LedgerService.Proofs.Traffic.Clocks
import LedgerService.Rpc.Switchboard
import Mathlib.Algebra.GroupWithZero.Nat

/-!
# Chronicles

Traffic itself forgets: once a chain is cut, nothing tells which call its parts belong to, and a call that is over
leaves no trace but a few counters. A chronicle accompanies the traffic of a switchboard and remembers. It keeps a
record of every call, and for every chain the call to which it belongs.

A chronicle never gets in the way: `Chronicle.step?_traffic` says that it goes along with every event that can
happen to the traffic, and with no other.
-/

namespace LedgerService

/-- Something that happened to a call. -/
inductive CallFact where
  | admitted (gate : Nat)
  | refused (gate : Nat)
  /-- All that lies behind the gate is done. -/
  | returned (gate : Nat)
  | recorded (endpoint status : String)
  | warned (governor : Nat)
  | expired (governor : Nat)
deriving DecidableEq, Repr

/-- The record of a call. -/
structure CallRecord where
  /-- The name that was called. -/
  method : String
  /-- What happened to the call, the latest first. -/
  facts : List CallFact
deriving DecidableEq, Repr

namespace CallRecord

/-- The record with more facts. -/
def add (facts : List CallFact) (record : CallRecord) : CallRecord :=
  { record with facts := facts ++ record.facts }

@[simp]
theorem add_method (facts : List CallFact) (record : CallRecord) : (record.add facts).method = record.method := rfl

@[simp]
theorem add_facts (facts : List CallFact) (record : CallRecord) :
    (record.add facts).facts = facts ++ record.facts :=
  rfl

/-- The gate has let the call in, and what lies behind the gate is not done. -/
def isBehind (gate : Nat) (record : CallRecord) : Bool :=
  record.facts.contains (.admitted gate) && !record.facts.contains (.returned gate)

/-- The governor of the method has given up on the call. -/
def isGivenUp (record : CallRecord) : Bool :=
  record.facts.any fun
    | .expired (_ + 1) => true
    | _ => false

end CallRecord

/-- What it means for a call that a duty of one of its tasks is done. -/
def Duty.returned : Duty → Option CallFact
  | .leave gate => some (.returned gate)
  | .record _ => none

/-- What it means for a call that one of its tasks attends to a duty. -/
def Duty.noted (ending : Ending) : Duty → List CallFact
  | .leave _ => []
  | .record endpoint => ending.status?.toList.map (.recorded endpoint)

theorem Duty.noted_panicked (duty : Duty) (text : Option String) : duty.noted (.panicked text) = [] := by
  cases duty <;> rfl

namespace Chain

variable {σ : Type}

/-- The gate at whose place the innermost task stands on its way out. -/
def returned (chain : Chain σ) : List CallFact :=
  match chain.focus, chain.duties with
  | .leaving _, .leave gate :: _ => [.returned gate]
  | _, _ => []

/-- The duties of the innermost task behind which something is still to be done. -/
def outstanding (chain : Chain σ) : List Duty :=
  match chain.focus, chain.duties with
  | .leaving _, .leave _ :: duties => duties
  | _, duties => duties

/-- What it means for a call that the outermost task of a chain is gone. -/
def withdrawal (chain : Chain σ) : List CallFact :=
  (match chain.waits.getLast? with
    | none => chain.outstanding
    | some outermost => outermost.duties).filterMap Duty.returned

/-- The innermost task has not begun, or pauses, or has nothing left to do but to end. -/
def isResting (chain : Chain σ) : Bool :=
  match chain.focus with
  | .asleep .. => true
  | _ => chain.duties.isEmpty

/-- The work of the chain has begun and has not ended. -/
def isAtWork (chain : Chain σ) : Bool :=
  match chain.focus with
  | .entering layers _ => layers.isEmpty
  | .asleep .. => true
  | .leaving _ => false

end Chain

/-- What can happen on a switchboard. -/
inductive SwitchboardEvent (σ : Type) where
  /-- A caller calls a method by its name. -/
  | call (caller method : String) (params : Json)
  | advance (chain : Nat)
  | warn (chain position : Nat)
  | expire (chain position : Nat)
  | withdraw (caller : String)
  | elapse (instant : Nat)
  /-- The surroundings change by themselves. -/
  | disturb (surroundings : σ)

/-- What an event means for a chain and its call. -/
structure Turn where
  /-- The position of the chain. -/
  index : Nat
  /-- What happened to the call, the latest first. -/
  facts : List CallFact
  /-- The number of chains that the chain has become. -/
  parts : Nat

namespace Traffic

variable {σ : Type}

/-- What the next step of the innermost task of a chain means for its call. -/
def advanceFacts (traffic : Traffic σ) (chain : Chain σ) : List CallFact :=
  (traffic.advanceChain chain).2.elim [] Chain.returned ++
    match chain.focus with
    | .entering (.gate index :: _) _ =>
      match traffic.gates[index]? with
      | some gate => if gate.isFull then [.refused index] else [.admitted index]
      | none => []
    | .leaving ending => (chain.duties.head?.map (Duty.noted ending)).getD []
    | _ => []

/-- What an event means for the chain that it concerns, if there is one. -/
def turn? (traffic : Traffic σ) : SwitchboardEvent σ → Option Turn
  | .advance index => do
    let chain ← traffic.chains[index]?
    return ⟨index, traffic.advanceFacts chain, (traffic.advanceChain chain).2.toList.length⟩
  | .warn index position => do
    let chain ← traffic.chains[index]?
    let wait ← chain.waits[position]?
    return ⟨index, [.warned wait.governor], 1⟩
  | .expire index position => do
    let chain ← traffic.chains[index]?
    let wait ← chain.waits[position]?
    return ⟨index, (wait.duties.head?.bind Duty.returned).toList ++ [.expired wait.governor], 2⟩
  | .withdraw caller => do
    let index ← traffic.chains.findIdx? fun chain => chain.caller == some caller
    let chain ← traffic.chains[index]?
    return ⟨index, chain.withdrawal, min chain.waits.length 1⟩
  | _ => none

/-- The traffic of a switchboard after an event, or none if the event cannot happen now. -/
def react? (switchboard : Switchboard σ) (traffic : Traffic σ) : SwitchboardEvent σ → Option (Traffic σ)
  | .call caller method params => traffic.step? (switchboard.arrival caller method params)
  | .advance index => traffic.step? (.advance index)
  | .warn index position => traffic.step? (.warn index position)
  | .expire index position => traffic.step? (.expire index position)
  | .withdraw caller => traffic.step? (.withdraw caller)
  | .elapse instant => traffic.step? (.elapse instant)
  | .disturb surroundings => some { traffic with surroundings }

/-- Time passes only while no task can go on. -/
def isPatient (traffic : Traffic σ) : SwitchboardEvent σ → Bool
  | .elapse _ => traffic.isQuiet
  | _ => true

/-- Time passes only while no task can go on, and not beyond the next instant for which something is due. -/
def isPunctual (traffic : Traffic σ) : SwitchboardEvent σ → Bool
  | .elapse instant => traffic.pausesUntil instant
  | _ => true

/-- No task is in the middle of a step. -/
def isResting (traffic : Traffic σ) : Bool := traffic.chains.all Chain.isResting

end Traffic

/-- Traffic on a switchboard, and what happened to each call. -/
structure Chronicle (σ : Type) where
  traffic : Traffic σ
  calls : List CallRecord
  /-- For each chain the position of its call. -/
  owners : List Nat

namespace Chronicle

variable {σ : Type}

/-- The chronicle before any call. -/
def start (switchboard : Switchboard σ) (surroundings : σ) : Chronicle σ :=
  ⟨switchboard.idleTraffic surroundings, [], []⟩

/-- Notes what an event means for a chain that belongs to a call. -/
def note (chronicle : Chronicle σ) (owner : Nat) (turn : Turn) (traffic : Traffic σ) : Chronicle σ :=
  { traffic
    calls := chronicle.calls.modify owner (CallRecord.add turn.facts)
    owners := chronicle.owners.take turn.index ++
      (List.replicate turn.parts owner ++ chronicle.owners.drop (turn.index + 1)) }

/-- Notes a new call. -/
def enroll (chronicle : Chronicle σ) (method : String) (traffic : Traffic σ) : Chronicle σ :=
  ⟨traffic, chronicle.calls ++ [⟨method, []⟩], chronicle.owners ++ [chronicle.calls.length]⟩

/-- Notes an event that leads to the given traffic. -/
def account (chronicle : Chronicle σ) (event : SwitchboardEvent σ) (traffic : Traffic σ) : Chronicle σ :=
  match event, chronicle.traffic.turn? event with
  | .call _ method _, _ => chronicle.enroll method traffic
  | _, some turn =>
    match chronicle.owners[turn.index]? with
    | some owner => chronicle.note owner turn traffic
    | none => { chronicle with traffic }
  | _, none => { chronicle with traffic }

/-- The chronicle after an event, or none if the event cannot happen now. -/
def step? (switchboard : Switchboard σ) (chronicle : Chronicle σ) (event : SwitchboardEvent σ) :
    Option (Chronicle σ) :=
  (chronicle.traffic.react? switchboard event).map (chronicle.account event)

/-- The chronicle after events that happen one after the other. -/
def run? (switchboard : Switchboard σ) (chronicle : Chronicle σ) :
    List (SwitchboardEvent σ) → Option (Chronicle σ)
  | [] => some chronicle
  | event :: events => do (← chronicle.step? switchboard event).run? switchboard events

@[simp]
theorem account_traffic (chronicle : Chronicle σ) (event : SwitchboardEvent σ) (traffic : Traffic σ) :
    (chronicle.account event traffic).traffic = traffic := by
  unfold account
  split
  · rfl
  · split <;> rfl
  · rfl

/-- A chronicle goes along with the events that can happen to the traffic, and with no others. -/
theorem step?_traffic (switchboard : Switchboard σ) (chronicle : Chronicle σ) (event : SwitchboardEvent σ) :
    (chronicle.step? switchboard event).map Chronicle.traffic = chronicle.traffic.react? switchboard event := by
  simp [step?, Function.comp_def]

/-- The traffic goes where the chronicle goes. -/
theorem foldlM_of_run? {switchboard : Switchboard σ} {chronicle next : Chronicle σ}
    {events : List (SwitchboardEvent σ)} (run : chronicle.run? switchboard events = some next) :
    events.foldlM (Traffic.react? switchboard) chronicle.traffic = some next.traffic := by
  induction events generalizing chronicle with
  | nil =>
      rcases Option.some.inj run with rfl
      rfl
  | cons event events ih =>
      rcases Option.bind_eq_some_iff.mp run with ⟨middle, happened, rest⟩
      have reacts := chronicle.step?_traffic switchboard event
      rw [happened] at reacts
      rw [List.foldlM_cons, ← reacts]
      exact ih rest

/-- A chain if its call is the given one. -/
def ownChain (call : Nat) (owned : Nat × Chain σ) : Option (Chain σ) :=
  if owned.1 = call then some owned.2 else none

/-- The chains of the call at a position. -/
def chainsOf (chronicle : Chronicle σ) (call : Nat) : List (Chain σ) :=
  (chronicle.owners.zip chronicle.traffic.chains).filterMap (ownChain call)

/-- The number of handlers at work for some of the calls, whether or not anyone still waits for them. -/
def atWork (chronicle : Chronicle σ) (chosen : CallRecord → Bool) : Nat :=
  (chronicle.calls.zipIdx.map fun numbered =>
    if chosen numbered.1 then (chronicle.chainsOf numbered.2).countP Chain.isAtWork else 0).sum

/-- The number of handlers of a method at work. -/
def running (chronicle : Chronicle σ) (method : String) : Nat :=
  chronicle.atWork fun record => record.method == method

/-- No task is in the middle of a step. -/
def isResting (chronicle : Chronicle σ) : Bool := chronicle.traffic.isResting

end Chronicle

end LedgerService

import LedgerService.Traffic.Gate
import LedgerService.Traffic.Governor
import LedgerService.Traffic.Work

/-!
# Traffic

Requests on their way through layers of gates and governors, on a virtual clock. A governor starts a task of its
own for what lies inside it, and waits for that task. So a request is a chain of tasks, of which all but the
innermost one wait. When a governor's limit is reached or the caller goes away, the chain is cut: the inner part
goes on without a caller, and keeps its places at the gates until it ends.

Traffic moves in events, each of which concerns one task or lets time pass. A task that can go on may be kept waiting
meanwhile, and what is due at an instant happens at that instant or later. One event is what a task does between two
points at which others may come in; whatever it changes, nobody sees half of it.
-/

namespace LedgerService

/-- What a request passes on its way to the work. -/
inductive Layer where
  | gate (index : Nat)
  | governor (index : Nat)
  /-- Counts how requests to an endpoint end. -/
  | sample (endpoint : String)
deriving DecidableEq, Repr, Inhabited

/-- What a task still has to do when it ends. -/
inductive Duty where
  /-- To give up its place at a gate. -/
  | leave (gate : Nat)
  /-- To count how it ended. -/
  | record (endpoint : String)
deriving DecidableEq, Repr, Inhabited

/-- A task that waits at a governor. -/
structure Wait where
  /-- The duties of the task, the latest one first. -/
  duties : List Duty
  governor : Nat
  /-- The instant of the warning, unless there is none or it is past. -/
  warnAt : Option Nat
  /-- The instant at which the limit is reached, if there is one. -/
  expireAt : Option Nat
deriving DecidableEq, Repr, Inhabited

/-- What the innermost task of a chain does. -/
inductive Focus (σ : Type) where
  /-- It passes layers on its way to the work. -/
  | entering (layers : List Layer) (work : Work σ)
  /-- Its work pauses. -/
  | asleep (wakeAt : Nat) (rest : Work σ)
  /-- Its work has ended, and it attends to its duties. -/
  | leaving (ending : Ending)

/-- A chain of tasks, each of which waits for the next one inside. -/
structure Chain (σ : Type) where
  /-- Who waits for the outermost task, if anyone still does. -/
  caller : Option String
  /-- The waiting tasks, the innermost one first. -/
  waits : List Wait
  /-- The duties of the innermost task, the latest one first. -/
  duties : List Duty
  focus : Focus σ

/-- How a call ended for its caller. -/
inductive Outcome where
  | ended (ending : Ending)
  /-- The caller went away. -/
  | withdrawn
deriving Repr, Inhabited

/-- How a request to an endpoint ended. -/
structure EndpointSample where
  endpoint : String
  status : String
deriving DecidableEq, Repr, Inhabited

/-- All requests under way and what they pass. -/
structure Traffic (σ : Type) where
  /-- The instant, in nanoseconds from the start. -/
  now : Nat
  surroundings : σ
  gates : List Gate
  governors : List Governor
  /-- The recorded endings, the latest one first. -/
  samples : List EndpointSample
  chains : List (Chain σ)
  /-- The calls that have ended, the latest one first. -/
  outcomes : List (String × Outcome)

/-- What can happen next. -/
inductive TrafficEvent (σ : Type) where
  /-- A caller starts a call. -/
  | arrive (caller : String) (layers : List Layer) (work : Work σ)
  /-- The innermost task of a chain goes on. -/
  | advance (chain : Nat)
  /-- A waiting task of a chain is warned. -/
  | warn (chain position : Nat)
  /-- A waiting task of a chain gives up. -/
  | expire (chain position : Nat)
  /-- A caller goes away. -/
  | withdraw (caller : String)
  /-- Time passes. -/
  | elapse (instant : Nat)

namespace Chain

variable {σ : Type}

/-- The innermost task of the chain can go on. -/
def canAdvance (now : Nat) (chain : Chain σ) : Bool :=
  match chain.focus with
  | .asleep wakeAt _ => wakeAt ≤ now
  | _ => true

/-- The instants for which something is due in the chain. -/
def deadlines (chain : Chain σ) : List Nat :=
  (match chain.focus with
    | .asleep wakeAt _ => [wakeAt]
    | _ => []) ++
    chain.waits.flatMap fun wait => wait.warnAt.toList ++ wait.expireAt.toList

/-- The outer part of a chain that is cut at one of its waits, which ends in the given way. -/
def outer (chain : Chain σ) (position : Nat) (wait : Wait) (ending : Ending) : Chain σ :=
  ⟨chain.caller, chain.waits.drop (position + 1), wait.duties, .leaving ending⟩

/-- The inner part of a chain that is cut at one of its waits. -/
def inner (chain : Chain σ) (position : Nat) : Chain σ :=
  ⟨none, chain.waits.take position, chain.duties, chain.focus⟩

end Chain

namespace Traffic

variable {σ : Type}

/-- No requests. -/
def idle (surroundings : σ) (gates : List Gate) (governors : List Governor) : Traffic σ :=
  ⟨0, surroundings, gates, governors, [], [], []⟩

/-- Changes a gate. -/
def adjustGate (traffic : Traffic σ) (index : Nat) (change : Gate → Gate) : Traffic σ :=
  { traffic with gates := traffic.gates.modify index change }

/-- Changes a governor. -/
def adjustGovernor (traffic : Traffic σ) (index : Nat) (change : Governor → Governor) : Traffic σ :=
  { traffic with governors := traffic.governors.modify index change }

/-- Attends to a duty. -/
def discharge (traffic : Traffic σ) (ending : Ending) : Duty → Traffic σ
  | .leave index => traffic.adjustGate index Gate.release
  | .record endpoint =>
    match ending.status? with
    | some status => { traffic with samples := ⟨endpoint, status⟩ :: traffic.samples }
    | none => traffic

/-- Gives up the places that the duties speak of. -/
def abandon (traffic : Traffic σ) (duties : List Duty) : Traffic σ :=
  duties.foldl (fun traffic duty => traffic.discharge (.panicked none) duty) traffic

/-- Tells a caller how the call ended. -/
def report (traffic : Traffic σ) (caller : Option String) (outcome : Outcome) : Traffic σ :=
  match caller with
  | some caller => { traffic with outcomes := (caller, outcome) :: traffic.outcomes }
  | none => traffic

/-- One step of a chain on the way in: through the next layer, or into the work. -/
def enter (traffic : Traffic σ) (chain : Chain σ) : List Layer → Work σ → Traffic σ × Chain σ
  | .gate index :: layers, work =>
    match traffic.gates[index]? with
    | none => (traffic, { chain with focus := .entering layers work })
    | some gate =>
      if gate.isFull then
        (traffic.adjustGate index Gate.turnAway,
          { chain with focus := .leaving (.answered (.error gate.refusal)) })
      else
        (traffic.adjustGate index Gate.letIn,
          { chain with duties := .leave index :: chain.duties, focus := .entering layers work })
  | .governor index :: layers, work =>
    match traffic.governors[index]? with
    | none => (traffic, { chain with focus := .entering layers work })
    | some governor =>
      let wait : Wait :=
        ⟨chain.duties, index, governor.warnAt? traffic.now, governor.expireAt? traffic.now⟩
      (traffic, { chain with waits := wait :: chain.waits, duties := [], focus := .entering layers work })
  | .sample endpoint :: layers, work =>
    (traffic, { chain with duties := .record endpoint :: chain.duties, focus := .entering layers work })
  | [], .done ending => (traffic, { chain with focus := .leaving ending })
  | [], .pause duration rest =>
    (traffic, { chain with focus := .asleep (traffic.now + duration.nanoseconds) rest })
  | [], .consult change next =>
    ({ traffic with surroundings := change traffic.surroundings },
      { chain with focus := .entering [] (next traffic.surroundings) })

/-- An ending as the task outside sees it. -/
def containedBy (traffic : Traffic σ) (wait : Wait) (ending : Ending) : Ending :=
  match traffic.governors[wait.governor]? with
  | some governor => ending.contained governor.resource
  | none => ending

/-- One step of a chain on the way out: a duty, or the end of the innermost task. -/
def leave (traffic : Traffic σ) (chain : Chain σ) (ending : Ending) : Traffic σ × Option (Chain σ) :=
  match chain.duties, chain.waits with
  | duty :: duties, _ => (traffic.discharge ending duty, some { chain with duties })
  | [], wait :: waits =>
    (traffic,
      some { chain with waits, duties := wait.duties, focus := .leaving (traffic.containedBy wait ending) })
  | [], [] => (traffic.report chain.caller (.ended ending), none)

/-- One step of the innermost task of a chain. -/
def advanceChain (traffic : Traffic σ) (chain : Chain σ) : Traffic σ × Option (Chain σ) :=
  match chain.focus with
  | .entering layers work =>
    let (traffic, chain) := traffic.enter chain layers work
    (traffic, some chain)
  | .asleep _ rest => (traffic, some { chain with focus := .entering [] rest })
  | .leaving ending => traffic.leave chain ending

/-- The chain at a position is replaced by others. -/
def replaceChain (traffic : Traffic σ) (index : Nat) (chains : List (Chain σ)) : Traffic σ :=
  { traffic with chains := traffic.chains.take index ++ chains ++ traffic.chains.drop (index + 1) }

/-- The earliest instant for which something is due. -/
def deadline? (traffic : Traffic σ) : Option Nat := (traffic.chains.flatMap Chain.deadlines).min?

/-- Cuts the caller of a chain off from the work: the outermost task is gone, whatever waits inside goes on. -/
def withdrawChain (traffic : Traffic σ) (index : Nat) (chain : Chain σ) : Traffic σ :=
  match chain.waits.getLast? with
  | none => ((traffic.replaceChain index []).abandon chain.duties).report chain.caller .withdrawn
  | some outermost =>
    ((traffic.replaceChain index [{ chain with caller := none, waits := chain.waits.dropLast }]).abandon
      outermost.duties).report chain.caller .withdrawn

/-- The traffic after an event, or none if the event cannot happen now. -/
def step? (traffic : Traffic σ) : TrafficEvent σ → Option (Traffic σ)
  | .arrive caller layers work =>
    some { traffic with chains := traffic.chains ++ [⟨some caller, [], [], .entering layers work⟩] }
  | .advance index => do
    let chain ← traffic.chains[index]?
    guard (chain.canAdvance traffic.now)
    let (traffic, advanced) := traffic.advanceChain chain
    return traffic.replaceChain index advanced.toList
  | .warn index position => do
    let chain ← traffic.chains[index]?
    let wait ← chain.waits[position]?
    let instant ← wait.warnAt
    guard (instant ≤ traffic.now)
    let warned := { chain with waits := chain.waits.set position { wait with warnAt := none } }
    return (traffic.replaceChain index [warned]).adjustGovernor wait.governor Governor.warn
  | .expire index position => do
    let chain ← traffic.chains[index]?
    let wait ← chain.waits[position]?
    let instant ← wait.expireAt
    guard (instant ≤ traffic.now)
    let governor ← traffic.governors[wait.governor]?
    let outer := chain.outer position wait (.answered (.error governor.refusal))
    return (traffic.replaceChain index [outer, chain.inner position]).adjustGovernor wait.governor
      Governor.expire
  | .withdraw caller => do
    let index ← traffic.chains.findIdx? fun chain => chain.caller == some caller
    let chain ← traffic.chains[index]?
    return traffic.withdrawChain index chain
  | .elapse instant => do
    guard (traffic.now ≤ instant)
    return { traffic with now := instant }

/-- The traffic after events that happen one after the other. -/
def run? (traffic : Traffic σ) : List (TrafficEvent σ) → Option (Traffic σ)
  | [] => some traffic
  | event :: events => do (← traffic.step? event).run? events

end Traffic

end LedgerService

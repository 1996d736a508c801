import LedgerService.Traffic.Machine

/-!
# Schedules

One order of events out of the many that are possible: whatever can go on goes on, chain after chain, and time
passes from one due instant to the next.
-/

namespace LedgerService.Traffic

variable {σ : Type}

/-- The events that are due in a chain, in the order in which the schedule prefers them. -/
def dueIn (now index : Nat) (chain : Chain σ) : List (TrafficEvent σ) :=
  (if chain.canAdvance now then [.advance index] else []) ++
    chain.waits.zipIdx.flatMap fun (wait, position) =>
      (if wait.warnAt.any (· ≤ now) then [.warn index position] else []) ++
        (if wait.expireAt.any (· ≤ now) then [.expire index position] else [])

/-- The first event that is due. -/
def due? (traffic : Traffic σ) : Option (TrafficEvent σ) :=
  traffic.chains.zipIdx.findSome? fun (chain, index) => (dueIn traffic.now index chain).head?

/-- Lets everything happen that is due, up to so many events. -/
def settle : Nat → Traffic σ → Traffic σ
  | 0, traffic => traffic
  | fuel + 1, traffic =>
    match traffic.due? with
    | none => traffic
    | some event =>
      match traffic.step? event with
      | none => traffic
      | some traffic => settle fuel traffic

/-- More events than a schedule lets happen at one instant. -/
def eventLimit : Nat := 100000000

/-- Everything that is due has happened. -/
def settled (traffic : Traffic σ) : Traffic σ := traffic.settle eventLimit

/-- Lets an event happen, and then everything that is due. -/
def apply (traffic : Traffic σ) (event : TrafficEvent σ) : Traffic σ :=
  ((traffic.step? event).getD traffic).settled

/-- Lets time pass until an instant, through at most so many due instants. -/
def passTo (instant : Nat) : Nat → Traffic σ → Traffic σ
  | 0, traffic => traffic
  | fuel + 1, traffic =>
    match traffic.deadline? with
    | some deadline =>
      if deadline < instant then passTo instant fuel (traffic.apply (.elapse deadline))
      else traffic.apply (.elapse instant)
    | none => traffic.apply (.elapse instant)

/-- Lets a span of time pass. -/
def pass (traffic : Traffic σ) (duration : Duration) : Traffic σ :=
  traffic.passTo (traffic.now + duration.nanoseconds) eventLimit

/-- The calls without an outcome, in the order in which they started. -/
def pending (traffic : Traffic σ) : List String := traffic.chains.filterMap Chain.caller

end LedgerService.Traffic

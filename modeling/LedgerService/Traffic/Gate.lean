import LedgerService.Rpc.Error

/-!
# Admission gates

A gate lets a bounded number of requests in at a time and refuses the others at once; nothing waits at a gate.
What a gate shows to the outside are a gauge of the requests inside and a count of the refusals.

The gauge follows the number of the requests inside, by which the gate goes: each of the two is changed by itself, one
right after the other (`Gate.letIn`, `Gate.release`). A task that changes them does not pause in between, so the traffic
takes both changes as one step; what is said of a gate in any state of the traffic is said of it before or after both.
-/

namespace LedgerService

/-- The full names of a gate's metrics. -/
structure GateMeters where
  inFlight : String
  rejections : String
deriving DecidableEq, Repr, Inhabited

/-- A gate for the requests to a resource. -/
structure Gate where
  resource : String
  limit : UInt64
  /-- The number of requests inside. -/
  inFlight : UInt64
  /-- The reading of the gauge. -/
  gauge : Int
  /-- The number of requests refused. -/
  rejections : Nat
  meters : Option GateMeters
deriving DecidableEq, Repr, Inhabited

namespace Gate

/-- A gate with nothing inside. -/
def idle (resource : String) (limit : UInt64) (meters : Option GateMeters) : Gate :=
  ⟨resource, limit, 0, 0, 0, meters⟩

/-- The gate takes no more requests. -/
def isFull (gate : Gate) : Bool := gate.limit ≤ gate.inFlight

/-- The number of the requests inside goes up, and the gauge does not know yet. -/
def countIn (gate : Gate) : Gate := { gate with inFlight := gate.inFlight + 1 }

/-- The number of the requests inside goes down, and the gauge does not know yet. -/
def countOut (gate : Gate) : Gate := { gate with inFlight := gate.inFlight - 1 }

/-- The gauge moves by so many requests. -/
def moveGauge (change : Int) (gate : Gate) : Gate := { gate with gauge := gate.gauge + change }

/-- One more request goes in. -/
def letIn (gate : Gate) : Gate := gate.countIn.moveGauge 1

/-- A request is turned away. -/
def turnAway (gate : Gate) : Gate := { gate with rejections := gate.rejections + 1 }

/-- A request that was inside is gone. -/
def release (gate : Gate) : Gate := gate.countOut.moveGauge (-1)

/-- The answer to a request that is turned away. -/
def refusal (gate : Gate) : RequestError := .backlogFull gate.resource gate.limit

end Gate

end LedgerService

import LedgerService.Rpc.Error

/-!
# Duration governors

A governor watches over the duration of the requests to a resource. A request that passes the warning threshold
is counted; one that reaches the limit is counted, and its caller is answered at once, while the work goes on
unseen.
-/

namespace LedgerService

/-- The full names of a governor's metrics. -/
structure GovernorMeters where
  warnings : String
  expirations : String
deriving DecidableEq, Repr, Inhabited

/-- A governor of the requests to a resource; thresholds of zero do not exist. -/
structure Governor where
  resource : String
  warning : Duration
  limit : Duration
  /-- The number of requests that passed the warning threshold. -/
  warnings : Nat
  /-- The number of requests that reached the limit. -/
  expirations : Nat
  meters : Option GovernorMeters
deriving DecidableEq, Repr, Inhabited

namespace Governor

/-- A governor that has seen no requests yet. -/
def idle (resource : String) (warning limit : Duration) (meters : Option GovernorMeters) : Governor :=
  ⟨resource, warning, limit, 0, 0, meters⟩

/-- There is a limit. -/
def hasLimit (governor : Governor) : Bool := governor.limit ≠ .zero

/-- There is a warning, which makes sense only when it comes before the limit. -/
def hasWarning (governor : Governor) : Bool :=
  governor.warning ≠ .zero &&
    (!governor.hasLimit || governor.warning.nanoseconds < governor.limit.nanoseconds)

/-- The instant of the warning for a request that starts now. -/
def warnAt? (governor : Governor) (now : Nat) : Option Nat :=
  if governor.hasWarning then some (now + governor.warning.nanoseconds) else none

/-- The instant at which a request that starts now reaches the limit. -/
def expireAt? (governor : Governor) (now : Nat) : Option Nat :=
  if governor.hasLimit then some (now + governor.limit.nanoseconds) else none

/-- A request passes the warning threshold. -/
def warn (governor : Governor) : Governor := { governor with warnings := governor.warnings + 1 }

/-- A request reaches the limit. -/
def expire (governor : Governor) : Governor := { governor with expirations := governor.expirations + 1 }

/-- The answer to a request that reaches the limit. -/
def refusal (governor : Governor) : RequestError := .durationExceeded governor.resource governor.limit

end Governor

end LedgerService

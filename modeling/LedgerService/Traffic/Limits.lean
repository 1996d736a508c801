import LedgerService.Rpc.Error

/-!
# Limits

How many requests may be in flight at a time and how long one may take, for a method and for the whole server.
-/

namespace LedgerService

/-- The limits of a method; a maximum of zero means that there is none. -/
structure MethodLimits where
  queueLimit : UInt64
  maximum : Duration
deriving DecidableEq, Repr, Inhabited

/-- A method is reported as slow after a third of its maximum. -/
def MethodLimits.warning (limits : MethodLimits) : Duration := limits.maximum.third

/-- The limits of the whole server; a maximum of zero means that there is none. -/
structure GlobalLimits where
  queueLimit : UInt64
  warning : Duration
  maximum : Duration
deriving DecidableEq, Repr, Inhabited

/-- The name under which the limits of the whole server appear. -/
def globalResource : String := "global"

/-- Something may be in flight, and the warning comes before the end. -/
def GlobalLimits.validate (limits : GlobalLimits) : Except SetupError Unit :=
  if limits.queueLimit = 0 then .error (.limits globalResource "queue limit must be positive")
  else if limits.maximum ≠ .zero ∧ limits.maximum.nanoseconds ≤ limits.warning.nanoseconds then
    .error (.limits globalResource
      ("warning threshold " ++ limits.warning.text ++ " must be below execution limit " ++ limits.maximum.text))
  else .ok ()

end LedgerService

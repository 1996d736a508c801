import LedgerService.Failure
import LedgerService.Metrics.Name
import LedgerService.Time.Duration

/-!
# Errors of requests and of the server

The error with which a request is answered, with its code and its label, and the reasons for which a server
cannot be set up.
-/

namespace LedgerService

/-- The error with which a request is answered. -/
inductive RequestError where
  | backlogFull (resource : String) (limit : UInt64)
  | durationExceeded (resource : String) (limit : Duration)
  | panicked (resource text : String)
  | invalidParams (text : String)
  | methodNotFound (name : String)
  | service (cause : Failure)
deriving Repr, Inhabited

namespace RequestError

/-- The wording of the error. -/
def message : RequestError → String
  | backlogFull resource limit =>
    "rpc queue for " ++ resource ++ " surpassed queue limit of " ++ toString limit ++ " requests"
  | durationExceeded resource limit =>
    "request for " ++ resource ++ " exceeded processing limit threshold of " ++ limit.text
  | panicked resource text => "request for " ++ resource ++ " panicked: " ++ text
  | invalidParams text => "invalid params: " ++ text
  | methodNotFound name => "method not found: " ++ name
  | service cause => cause.message

/-- The code of the error. -/
def code : RequestError → Int
  | backlogFull .. => -32003
  | durationExceeded .. => -32001
  | panicked .. => -32603
  | invalidParams _ => -32602
  | methodNotFound _ => -32601
  | service (.validation _) | service (.serialization _) => 4000
  | service (.notFound _) => 4001
  | service (.invalidState _) => 4002
  | service (.database _) => 5001
  | service (.configuration _) | service (.fees _) | service (.internal _) => 5000

/-- The label of the error in metrics. -/
def category : RequestError → String
  | backlogFull .. => "backlog_full"
  | durationExceeded .. => "execution_duration_exceeded"
  | panicked .. => "internal_error"
  | invalidParams _ => "invalid_params"
  | methodNotFound _ => "method_not_found"
  | service (.notFound _) => "not_found"
  | service (.validation _) => "validation_error"
  | service _ => "internal_error"

end RequestError

/-- A reason why a server cannot be set up. -/
inductive SetupError where
  | metrics (cause : MetricFailure)
  | registration (text : String)
  | binding (address reason : String)
  | limits (resource reason : String)
deriving DecidableEq, Repr, Inhabited

/-- The wording of a set-up error. -/
def SetupError.message : SetupError → String
  | .metrics cause => "metrics registration failed: " ++ cause.message
  | .registration text => "method registration failed: " ++ text
  | .binding address reason => "failed to bind " ++ address ++ ": " ++ reason
  | .limits resource reason => "invalid limits for " ++ resource ++ ": " ++ reason

end LedgerService

import LedgerService.Json.Fault

/-!
# Failures

The reasons for which work on ledgers fails, from malformed ledgers over the fee windows to the service as a
whole, each with its wording.
-/

namespace LedgerService

/-- A reason why the transactions of a ledger cannot be read. -/
inductive MalformedLedger where
  | missingPassphrase
  | countMismatch (sequence : UInt32) (envelopes results : Nat)
deriving DecidableEq, Repr, Inhabited

/-- The wording of a malformed ledger. -/
def MalformedLedger.message : MalformedLedger → String
  | .missingPassphrase => "network passphrase must not be empty"
  | .countMismatch sequence envelopes results =>
    "ledger " ++ toString sequence ++ ": " ++ toString envelopes ++ " transaction envelopes but " ++
      toString results ++ " processing results"

/-- A reason why a fee window refuses a ledger. -/
inductive FeeFailure where
  | emptyRetention
  | gap (expected received : UInt32)
  | malformed (cause : MalformedLedger)
  /-- The storage transaction of the refused ledger could not be rolled back either. -/
  | rollbackFailed (cause : FeeFailure) (rollback : String)
deriving DecidableEq, Repr, Inhabited

/-- The wording of a fee failure. -/
def FeeFailure.message : FeeFailure → String
  | .emptyRetention => "retention window must be positive"
  | .gap expected received =>
    "error appending ledgers: ledgers not contiguous: expected ledger sequence " ++ toString expected ++
      " but received " ++ toString received
  | .malformed cause => "malformed ledger close meta: " ++ cause.message
  | .rollbackFailed cause rollback => cause.message ++ " (rollback failed: " ++ rollback ++ ")"

/-- A reason why the service fails at a task. -/
inductive Failure where
  | validation (text : String)
  | database (text : String)
  | serialization (error : Json.DecodeError)
  | configuration (text : String)
  | notFound (text : String)
  | invalidState (text : String)
  | fees (cause : FeeFailure)
  | internal (text : String)
deriving Repr, Inhabited

/-- The wording of a failure. -/
def Failure.message : Failure → String
  | .validation text => "Validation error: " ++ text
  | .database text => "Database error: " ++ text
  | .serialization error => "Serialization error: " ++ error.message
  | .configuration text => "Configuration error: " ++ text
  | .notFound text => "Not found: " ++ text
  | .invalidState text => "Invalid state: " ++ text
  | .fees cause => "Fee window error: " ++ cause.message
  | .internal text => "Internal error: " ++ text

/-- A fee failure joined with the outcome of the rollback that it caused. -/
def FeeFailure.afterRollback (cause : FeeFailure) : Except Failure Unit → FeeFailure
  | .ok () => cause
  | .error failure => .rollbackFailed cause failure.message

end LedgerService

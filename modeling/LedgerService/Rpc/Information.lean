import LedgerService.Rpc.Surroundings
import LedgerService.Rpc.Types

/-!
# Methods that inform about the service

The health of the service, its network, its version, its newest ledger and the fees.
-/

namespace LedgerService

variable {σ : Type} [LedgerSource σ]

/-- The seconds from the close of a ledger until now, none below zero. -/
def latency (now closeTime : Int64) : Nat := (nearest64 (now.toInt - closeTime.toInt)).toInt.toNat

/-- The complaint about a newest ledger that is too old. -/
def staleLedger (latency greatest : Nat) : RequestError :=
  .service (.internal ("latency (" ++ toString latency ++ "s) since last known ledger closed is too high (>" ++
    toString greatest ++ "s)"))

/-- The service is healthy when its newest ledger closed not too long ago. -/
def answerHealth (retention : UInt32) (greatest : Duration) : Handler (Surroundings σ) := fun _ =>
  Surroundings.readRange fun range =>
    Surroundings.readLatest fun latest =>
      .look fun surroundings =>
        let age := latency surroundings.clock.seconds latest.closeTime
        if greatest.seconds < age then .reply (.error (staleLedger age greatest.seconds))
        else HealthResponse.schema.respond ⟨"healthy", range.last, range.first, retention⟩

/-- The network of the service. -/
def answerNetwork (passphrase : String) (friendbotUrl : Option String) : Handler (Surroundings σ) := fun _ =>
  Surroundings.readLatest fun latest =>
    NetworkResponse.schema.respond ⟨friendbotUrl, passphrase, latest.protocolVersion⟩

/-- The version of the service. -/
def answerVersion (version : String) (buildTimestamp : Option String) : Handler (Surroundings σ) := fun _ =>
  Surroundings.readLatest fun latest =>
    VersionResponse.schema.respond ⟨version, buildTimestamp, latest.protocolVersion⟩

/-- The newest ledger. -/
def answerLatestLedger : Handler (Surroundings σ) := fun _ =>
  Surroundings.readLatest fun latest =>
    LatestLedgerResponse.schema.respond ⟨latest.hash, latest.sequence, latest.protocolVersion⟩

/-- The statistics of both fee windows. -/
def answerFeeStats : Handler (Surroundings σ) := fun _ =>
  Surroundings.readRange fun range =>
    .look fun surroundings =>
      FeeStatsResponse.schema.respond
        ⟨surroundings.book.contract.statistics.response, surroundings.book.classic.statistics.response, range.last⟩

end LedgerService

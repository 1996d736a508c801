import LedgerService.Fees.Statistics
import LedgerService.Ledger.Layout

/-!
# Requests and responses

The values that travel with each method of the service, and their JSON layout.
-/

namespace LedgerService

/-- The answer about the health of the service. -/
structure HealthResponse where
  status : String
  latestLedger : UInt32
  oldestLedger : UInt32
  ledgerRetentionWindow : UInt32
deriving DecidableEq, Repr, Inhabited

/-- The answer about the network. -/
structure NetworkResponse where
  friendbotUrl : Option String
  passphrase : String
  protocolVersion : UInt32
deriving DecidableEq, Repr, Inhabited

/-- The answer about the version of the service. -/
structure VersionResponse where
  version : String
  buildTimestamp : Option String
  protocolVersion : UInt32
deriving DecidableEq, Repr, Inhabited

/-- The answer about the newest ledger. -/
structure LatestLedgerResponse where
  id : String
  sequence : UInt32
  protocolVersion : UInt32
deriving DecidableEq, Repr, Inhabited

/-- Which page of ledgers is wanted. -/
structure Pagination where
  cursor : Option String
  limit : UInt32
deriving DecidableEq, Repr, Inhabited

/-- A request for ledgers. -/
structure LedgersRequest where
  startLedger : UInt32
  pagination : Option Pagination
deriving DecidableEq, Repr, Inhabited

/-- One ledger of a page. -/
structure LedgerEntry where
  hash : String
  sequence : UInt32
  closeTime : String
  ledger : ClosedLedger
deriving DecidableEq, Repr, Inhabited

/-- A page of ledgers. -/
structure LedgersResponse where
  ledgers : List LedgerEntry
  latestLedger : UInt32
  latestCloseTime : Int64
  oldestLedger : UInt32
  oldestCloseTime : Int64
  cursor : String
deriving DecidableEq, Repr, Inhabited

/-- Fee statistics as they travel: numbers in decimal, but for the number of ledgers. -/
structure StatisticsResponse where
  maximum : String
  minimum : String
  mode : String
  p10 : String
  p20 : String
  p30 : String
  p40 : String
  p50 : String
  p60 : String
  p70 : String
  p80 : String
  p90 : String
  p95 : String
  p99 : String
  transactions : String
  ledgers : UInt32
deriving DecidableEq, Repr, Inhabited

/-- The answer about fees. -/
structure FeeStatsResponse where
  contract : StatisticsResponse
  classic : StatisticsResponse
  latestLedger : UInt32
deriving DecidableEq, Repr, Inhabited

/-- The layout of an answer about health. -/
def HealthResponse.schema : Schema HealthResponse :=
  .record "GetHealthResponse"
    (.field "status" .required .text <|
      .field "latestLedger" .required .word32 <|
        .field "oldestLedger" .required .word32 <|
          .field "ledgerRetentionWindow" .required .word32 .done)
    (fun (status, latest, oldest, retention, ()) => ⟨status, latest, oldest, retention⟩)
    (fun response =>
      (response.status, response.latestLedger, response.oldestLedger, response.ledgerRetentionWindow, ()))

/-- The layout of an answer about the network. -/
def NetworkResponse.schema : Schema NetworkResponse :=
  .record "GetNetworkResponse"
    (.field "friendbotUrl" .skippable (.optional .text) <|
      .field "passphrase" .required .text <|
        .field "protocolVersion" .required .word32 .done)
    (fun (friendbotUrl, passphrase, protocolVersion, ()) => ⟨friendbotUrl, passphrase, protocolVersion⟩)
    (fun response => (response.friendbotUrl, response.passphrase, response.protocolVersion, ()))

/-- The layout of an answer about the version. -/
def VersionResponse.schema : Schema VersionResponse :=
  .record "GetVersionInfoResponse"
    (.field "version" .required .text <|
      .field "buildTimestamp" .skippable (.optional .text) <|
        .field "protocolVersion" .required .word32 .done)
    (fun (version, buildTimestamp, protocolVersion, ()) => ⟨version, buildTimestamp, protocolVersion⟩)
    (fun response => (response.version, response.buildTimestamp, response.protocolVersion, ()))

/-- The layout of an answer about the newest ledger. -/
def LatestLedgerResponse.schema : Schema LatestLedgerResponse :=
  .record "GetLatestLedgerResponse"
    (.field "id" .required .text <|
      .field "sequence" .required .word32 <|
        .field "protocolVersion" .required .word32 .done)
    (fun (id, sequence, protocolVersion, ()) => ⟨id, sequence, protocolVersion⟩)
    (fun response => (response.id, response.sequence, response.protocolVersion, ()))

/-- The layout of a pagination; everything in it may be left out. -/
def Pagination.schema : Schema Pagination :=
  .record "LedgerPagination"
    (.field "cursor" (.defaulted none) (.optional .text) <|
      .field "limit" (.defaulted 0) .word32 .done)
    (fun (cursor, limit, ()) => ⟨cursor, limit⟩)
    (fun pagination => (pagination.cursor, pagination.limit, ()))

/-- The layout of a request for ledgers; everything in it may be left out. -/
def LedgersRequest.schema : Schema LedgersRequest :=
  .record "GetLedgersRequest"
    (.field "startLedger" (.defaulted 0) .word32 <|
      .field "pagination" (.defaulted none) (.optional Pagination.schema) .done)
    (fun (startLedger, pagination, ()) => ⟨startLedger, pagination⟩)
    (fun request => (request.startLedger, request.pagination, ()))

/-- The layout of one ledger of a page. -/
def LedgerEntry.schema : Schema LedgerEntry :=
  .record "LedgerEntry"
    (.field "hash" .required .text <|
      .field "sequence" .required .word32 <|
        .field "ledgerCloseTime" .required .text <|
          .field "metadataJson" .required ClosedLedger.schema .done)
    (fun (hash, sequence, closeTime, ledger, ()) => ⟨hash, sequence, closeTime, ledger⟩)
    (fun entry => (entry.hash, entry.sequence, entry.closeTime, entry.ledger, ()))

/-- The layout of a page of ledgers. -/
def LedgersResponse.schema : Schema LedgersResponse :=
  .record "GetLedgersResponse"
    (.field "ledgers" .required (.list LedgerEntry.schema) <|
      .field "latestLedger" .required .word32 <|
        .field "latestLedgerCloseTime" .required .signed64 <|
          .field "oldestLedger" .required .word32 <|
            .field "oldestLedgerCloseTime" .required .signed64 <|
              .field "cursor" .required .text .done)
    (fun (ledgers, latestLedger, latestCloseTime, oldestLedger, oldestCloseTime, cursor, ()) =>
      ⟨ledgers, latestLedger, latestCloseTime, oldestLedger, oldestCloseTime, cursor⟩)
    (fun response =>
      (response.ledgers, response.latestLedger, response.latestCloseTime, response.oldestLedger,
        response.oldestCloseTime, response.cursor, ()))

/-- The layout of fee statistics. -/
def StatisticsResponse.schema : Schema StatisticsResponse :=
  .record "FeeDistributionResponse"
    (.field "max" .required .text <| .field "min" .required .text <| .field "mode" .required .text <|
      .field "p10" .required .text <| .field "p20" .required .text <| .field "p30" .required .text <|
      .field "p40" .required .text <| .field "p50" .required .text <| .field "p60" .required .text <|
      .field "p70" .required .text <| .field "p80" .required .text <| .field "p90" .required .text <|
      .field "p95" .required .text <| .field "p99" .required .text <|
      .field "transactionCount" .required .text <| .field "ledgerCount" .required .word32 .done)
    (fun (maximum, minimum, mode, p10, p20, p30, p40, p50, p60, p70, p80, p90, p95, p99, transactions,
        ledgers, ()) =>
      ⟨maximum, minimum, mode, p10, p20, p30, p40, p50, p60, p70, p80, p90, p95, p99, transactions, ledgers⟩)
    (fun response =>
      (response.maximum, response.minimum, response.mode, response.p10, response.p20, response.p30,
        response.p40, response.p50, response.p60, response.p70, response.p80, response.p90, response.p95,
        response.p99, response.transactions, response.ledgers, ()))

/-- The layout of an answer about fees. -/
def FeeStatsResponse.schema : Schema FeeStatsResponse :=
  .record "GetFeeStatsResponse"
    (.field "sorobanInclusionFee" .required StatisticsResponse.schema <|
      .field "inclusionFee" .required StatisticsResponse.schema <|
        .field "latestLedger" .required .word32 .done)
    (fun (contract, classic, latestLedger, ()) => ⟨contract, classic, latestLedger⟩)
    (fun response => (response.contract, response.classic, response.latestLedger, ()))

/-- The layout of a ledger's header. -/
def LedgerSummary.schema : Schema LedgerSummary :=
  .record "LedgerInfo"
    (.field "sequence" .required .word32 <| .field "hash" .required .text <|
      .field "close_time" .required .signed64 <| .field "protocol_version" .required .word32 .done)
    (fun (sequence, hash, closeTime, protocolVersion, ()) => ⟨sequence, hash, closeTime, protocolVersion⟩)
    (fun summary => (summary.sequence, summary.hash, summary.closeTime, summary.protocolVersion, ()))

/-- Statistics ready for travel. -/
def FeeStatistics.response (statistics : FeeStatistics) : StatisticsResponse :=
  { maximum := toString statistics.maximum
    minimum := toString statistics.minimum
    mode := toString statistics.mode
    p10 := toString statistics.p10
    p20 := toString statistics.p20
    p30 := toString statistics.p30
    p40 := toString statistics.p40
    p50 := toString statistics.p50
    p60 := toString statistics.p60
    p70 := toString statistics.p70
    p80 := toString statistics.p80
    p90 := toString statistics.p90
    p95 := toString statistics.p95
    p99 := toString statistics.p99
    transactions := toString statistics.transactions
    ledgers := statistics.ledgers }

/-- A ledger as an entry of a page. -/
def ClosedLedger.entry (ledger : ClosedLedger) : LedgerEntry :=
  ⟨ledger.hash, ledger.sequence, toString ledger.closeTime, ledger⟩

end LedgerService

import LedgerService.Fees.Book
import LedgerService.Rpc.Service
import LedgerService.Schema.Encode
import LedgerService.Settings.Adapt
import LedgerService.Settings.Sources
import LedgerService.Text.Blank

/-!
# The configuration

All that can be configured, its defaults, what has to hold of it, and the service that it describes.
-/

namespace LedgerService

/-- The form of log lines. -/
inductive LogFormat where
  | pretty
  | json
deriving DecidableEq, Repr, Inhabited

/-- The name of a form of log lines. -/
def LogFormat.name : LogFormat → String
  | .pretty => "pretty"
  | .json => "json"

/-- The form of log lines with a name. -/
def LogFormat.ofName? (name : String) : Option LogFormat :=
  if name = "pretty" then some .pretty else if name = "json" then some .json else none

/-- A form of log lines is written as its name. -/
def LogFormat.schema : Schema LogFormat := .choice ["pretty", "json"] LogFormat.ofName? LogFormat.name

/-- The configured limits of a method. -/
structure MethodSettings where
  queueLimit : UInt64
  maximumMillis : UInt64
deriving DecidableEq, Repr, Inhabited

/-- The configuration. -/
structure Configuration where
  endpoint : String
  adminEndpoint : Option String
  databasePath : String
  passphrase : String
  friendbotUrl : Option String
  historyRetention : UInt32
  classicRetention : UInt32
  contractRetention : UInt32
  greatestLatencyMillis : UInt64
  globalQueueLimit : UInt64
  globalWarningMillis : UInt64
  globalMaximumMillis : UInt64
  health : MethodSettings
  network : MethodSettings
  version : MethodSettings
  latestLedger : MethodSettings
  ledgers : MethodSettings
  feeStats : MethodSettings
  greatestPage : UInt32
  usualPage : UInt32
  logLevel : String
  logFormat : LogFormat
deriving DecidableEq, Repr, Inhabited

namespace Configuration

/-- The configuration unless something else is configured. -/
def standard : Configuration where
  endpoint := "127.0.0.1:8000"
  adminEndpoint := none
  databasePath := "ledger_rpc.sqlite"
  passphrase := ""
  friendbotUrl := none
  historyRetention := 120960
  classicRetention := 10
  contractRetention := 50
  greatestLatencyMillis := 30000
  globalQueueLimit := 5000
  globalWarningMillis := 5000
  globalMaximumMillis := 25000
  health := ⟨1000, 5000⟩
  network := ⟨1000, 5000⟩
  version := ⟨1000, 5000⟩
  latestLedger := ⟨1000, 5000⟩
  ledgers := ⟨1000, 10000⟩
  feeStats := ⟨100, 5000⟩
  greatestPage := 200
  usualPage := 50
  logLevel := "info"
  logFormat := .pretty

/-- The two fields of a method, with its name as it appears in their keys. -/
def methodFields {β : Type} (name : String) (standard : MethodSettings) (rest : Fields β) :
    Fields (UInt64 × UInt64 × β) :=
  .field ("request_backlog_get_" ++ name ++ "_queue_limit") (.defaulted standard.queueLimit) .word64 <|
    .field ("max_get_" ++ name ++ "_execution_duration_ms") (.defaulted standard.maximumMillis) .word64 rest

/-- The layout of the configuration; everything in it may be left out. -/
def schema : Schema Configuration :=
  .record "Config"
    (.field "endpoint" (.defaulted standard.endpoint) .text <|
      .field "admin_endpoint" (.defaulted standard.adminEndpoint) (.optional .text) <|
      .field "db_path" (.defaulted standard.databasePath) .text <|
      .field "network_passphrase" (.defaulted standard.passphrase) .text <|
      .field "friendbot_url" (.defaulted standard.friendbotUrl) (.optional .text) <|
      .field "history_retention_window" (.defaulted standard.historyRetention) .word32 <|
      .field "classic_fee_stats_retention_window" (.defaulted standard.classicRetention) .word32 <|
      .field "soroban_fee_stats_retention_window" (.defaulted standard.contractRetention) .word32 <|
      .field "max_healthy_ledger_latency_ms" (.defaulted standard.greatestLatencyMillis) .word64 <|
      .field "request_backlog_global_queue_limit" (.defaulted standard.globalQueueLimit) .word64 <|
      .field "request_execution_warning_threshold_ms" (.defaulted standard.globalWarningMillis) .word64 <|
      .field "max_request_execution_duration_ms" (.defaulted standard.globalMaximumMillis) .word64 <|
      methodFields "health" standard.health <|
      methodFields "network" standard.network <|
      methodFields "version_info" standard.version <|
      methodFields "latest_ledger" standard.latestLedger <|
      methodFields "ledgers" standard.ledgers <|
      methodFields "fee_stats" standard.feeStats <|
      .field "max_ledgers_limit" (.defaulted standard.greatestPage) .word32 <|
      .field "default_ledgers_limit" (.defaulted standard.usualPage) .word32 <|
      .field "log_level" (.defaulted standard.logLevel) .text <|
      .field "log_format" (.defaulted standard.logFormat) LogFormat.schema .done)
    (fun (endpoint, adminEndpoint, databasePath, passphrase, friendbotUrl, historyRetention, classicRetention,
        contractRetention, greatestLatencyMillis, globalQueueLimit, globalWarningMillis, globalMaximumMillis,
        healthQueue, healthMaximum, networkQueue, networkMaximum, versionQueue, versionMaximum, latestQueue,
        latestMaximum, ledgersQueue, ledgersMaximum, feesQueue, feesMaximum, greatestPage, usualPage, logLevel,
        logFormat, ()) =>
      { endpoint, adminEndpoint, databasePath, passphrase, friendbotUrl, historyRetention, classicRetention,
        contractRetention, greatestLatencyMillis, globalQueueLimit, globalWarningMillis, globalMaximumMillis
        health := ⟨healthQueue, healthMaximum⟩
        network := ⟨networkQueue, networkMaximum⟩
        version := ⟨versionQueue, versionMaximum⟩
        latestLedger := ⟨latestQueue, latestMaximum⟩
        ledgers := ⟨ledgersQueue, ledgersMaximum⟩
        feeStats := ⟨feesQueue, feesMaximum⟩
        greatestPage, usualPage, logLevel, logFormat })
    (fun configuration =>
      (configuration.endpoint, configuration.adminEndpoint, configuration.databasePath, configuration.passphrase,
        configuration.friendbotUrl, configuration.historyRetention, configuration.classicRetention,
        configuration.contractRetention, configuration.greatestLatencyMillis, configuration.globalQueueLimit,
        configuration.globalWarningMillis, configuration.globalMaximumMillis, configuration.health.queueLimit,
        configuration.health.maximumMillis, configuration.network.queueLimit,
        configuration.network.maximumMillis, configuration.version.queueLimit,
        configuration.version.maximumMillis, configuration.latestLedger.queueLimit,
        configuration.latestLedger.maximumMillis, configuration.ledgers.queueLimit,
        configuration.ledgers.maximumMillis, configuration.feeStats.queueLimit,
        configuration.feeStats.maximumMillis, configuration.greatestPage, configuration.usualPage,
        configuration.logLevel, configuration.logFormat, ()))

/-- The endpoint of the administration, none if it is blank. -/
def administration? (configuration : Configuration) : Option String :=
  (configuration.adminEndpoint.map Text.trim).filter fun endpoint => !endpoint.isEmpty

/-- The number of ledgers that are replayed when the service starts. -/
def replayedLedgers (configuration : Configuration) : UInt32 :=
  max configuration.classicRetention configuration.contractRetention

/-- The complaint about a warning that comes too late. -/
def lateWarning (configuration : Configuration) : String :=
  "request_execution_warning_threshold_ms (" ++ toString configuration.globalWarningMillis ++
    ") must be below max_request_execution_duration_ms (" ++ toString configuration.globalMaximumMillis ++ ")"

/-- The complaint about a usual page that is too long. -/
def longPage (configuration : Configuration) : String :=
  "default_ledgers_limit (" ++ toString configuration.usualPage ++ ") must not exceed max_ledgers_limit (" ++
    toString configuration.greatestPage ++ ")"

/-- What has to hold of a configuration; the first complaint counts. -/
def validate (configuration : Configuration) : Except String Unit :=
  if (Text.trim configuration.passphrase).isEmpty then .error "network_passphrase is required"
  else if configuration.administration? = some configuration.endpoint then
    .error ("admin_endpoint must differ from endpoint (" ++ configuration.endpoint ++ ")")
  else if configuration.classicRetention = 0 then .error "classic_fee_stats_retention_window must be positive"
  else if configuration.contractRetention = 0 then .error "soroban_fee_stats_retention_window must be positive"
  else if configuration.historyRetention = 0 then .error "history_retention_window must be positive"
  else if configuration.greatestPage < configuration.usualPage then .error configuration.longPage
  else if configuration.globalQueueLimit = 0 then .error "request_backlog_global_queue_limit must be positive"
  else if configuration.globalMaximumMillis ≠ 0 ∧
      configuration.globalMaximumMillis ≤ configuration.globalWarningMillis then
    .error configuration.lateWarning
  else .ok ()

end Configuration

/-- The limits that the settings of a method describe. -/
def MethodSettings.limits (settings : MethodSettings) : MethodLimits :=
  ⟨settings.queueLimit, .ofMillis settings.maximumMillis.toNat⟩

namespace Configuration

/-- The limits of the whole service. -/
def globalLimits (configuration : Configuration) : GlobalLimits :=
  { queueLimit := configuration.globalQueueLimit
    warning := .ofMillis configuration.globalWarningMillis.toNat
    maximum := .ofMillis configuration.globalMaximumMillis.toNat }

/-- The service that a configuration describes. -/
def service (configuration : Configuration) : ServiceConfig :=
  { endpoint := configuration.endpoint
    limits := configuration.globalLimits
    methods :=
      { health := configuration.health.limits
        network := configuration.network.limits
        version := configuration.version.limits
        latestLedger := configuration.latestLedger.limits
        ledgers := configuration.ledgers.limits
        feeStats := configuration.feeStats.limits }
    passphrase := configuration.passphrase
    friendbotUrl := configuration.friendbotUrl
    retention := configuration.historyRetention
    greatestLatency := .ofMillis configuration.greatestLatencyMillis.toNat
    pages := ⟨configuration.greatestPage, configuration.usualPage⟩
    buildTimestamp := none }

/-- The empty fee book that a configuration describes. -/
def feeBook (configuration : Configuration) : Except FeeFailure FeeBook :=
  FeeBook.empty configuration.classicRetention configuration.contractRetention configuration.passphrase

end Configuration

end LedgerService

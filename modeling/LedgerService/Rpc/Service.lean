import LedgerService.Rpc.Information
import LedgerService.Rpc.Pages
import LedgerService.Rpc.Switchboard

/-!
# The service

The configuration of the service, and the switchboard of its methods.
-/

namespace LedgerService

/-- The limits of each method. -/
structure MethodTable where
  health : MethodLimits
  network : MethodLimits
  version : MethodLimits
  latestLedger : MethodLimits
  ledgers : MethodLimits
  feeStats : MethodLimits
deriving DecidableEq, Repr, Inhabited

/-- The configuration of the service. -/
structure ServiceConfig where
  endpoint : String
  limits : GlobalLimits
  methods : MethodTable
  passphrase : String
  friendbotUrl : Option String
  retention : UInt32
  greatestLatency : Duration
  pages : PageLimits
  buildTimestamp : Option String
deriving DecidableEq, Repr, Inhabited

/-- The version of the service. -/
def serviceVersion : String := "0.1.0"

/-- The limits of the methods unless they are configured. -/
def MethodTable.standard : MethodTable :=
  let usual : MethodLimits := ⟨1000, .ofSeconds 5⟩
  { health := usual
    network := usual
    version := usual
    latestLedger := usual
    ledgers := ⟨1000, .ofSeconds 10⟩
    feeStats := ⟨100, .ofSeconds 5⟩ }

/-- The limits with the names of their methods. -/
def MethodTable.entries (table : MethodTable) : List (String × MethodLimits) :=
  [("getHealth", table.health), ("getNetwork", table.network), ("getVersionInfo", table.version),
    ("getLatestLedger", table.latestLedger), ("getLedgers", table.ledgers), ("getFeeStats", table.feeStats)]

/-- The table with the limits of every method changed. -/
def MethodTable.map (table : MethodTable) (change : String → MethodLimits → MethodLimits) : MethodTable :=
  { health := change "getHealth" table.health
    network := change "getNetwork" table.network
    version := change "getVersionInfo" table.version
    latestLedger := change "getLatestLedger" table.latestLedger
    ledgers := change "getLedgers" table.ledgers
    feeStats := change "getFeeStats" table.feeStats }

/-- The limits of the whole service unless they are configured. -/
def GlobalLimits.standard : GlobalLimits := ⟨5000, .ofSeconds 5, .ofSeconds 25⟩

/-- The service unless it is configured. -/
def ServiceConfig.standard : ServiceConfig :=
  { endpoint := "127.0.0.1:8000"
    limits := .standard
    methods := .standard
    passphrase := ""
    friendbotUrl := none
    retention := 120960
    greatestLatency := .ofSeconds 30
    pages := ⟨200, 50⟩
    buildTimestamp := none }

namespace ServiceConfig

variable {σ : Type} [LedgerSource σ]

/-- The methods of the service, in the order in which they are registered. -/
def methodList (config : ServiceConfig) : List (Method (Surroundings σ)) :=
  [⟨"getHealth", config.methods.health, answerHealth config.retention config.greatestLatency⟩,
    ⟨"getNetwork", config.methods.network, answerNetwork config.passphrase config.friendbotUrl⟩,
    ⟨"getVersionInfo", config.methods.version, answerVersion serviceVersion config.buildTimestamp⟩,
    ⟨"getLatestLedger", config.methods.latestLedger, answerLatestLedger⟩,
    ⟨"getLedgers", config.methods.ledgers, answerLedgers config.pages⟩,
    ⟨"getFeeStats", config.methods.feeStats, answerFeeStats⟩]

/-- The switchboard of the service. -/
def switchboard (config : ServiceConfig) : Except SetupError (Switchboard (Surroundings σ)) :=
  Switchboard.build config.methodList config.limits

end ServiceConfig

end LedgerService

import LedgerService.Replay
import LedgerService.Settings.Configuration
import LedgerService.Store.Database
import LedgerService.Transport.Endpoint
import LedgerService.Transport.Exchange

/-!
# Starting the service

From a configuration to a service that can be called: the database is opened and gets its table, the fee book is
filled from the stored ledgers, and the switchboard is put together.
-/

namespace LedgerService

/-- A reason why the service does not start. -/
inductive StartFault where
  | database (cause : Failure)
  | table (cause : Failure)
  | fees (cause : FeeFailure)
  | replay (cause : Failure)
  | setup (cause : SetupError)
  | address (cause : SetupError)
deriving Repr, Inhabited

/-- The wording of the reason. -/
def StartFault.message : StartFault → String
  | .database cause => "DB pool creation failed: " ++ cause.message
  | .table cause => "Migration failed: " ++ cause.message
  | .fees cause => "invalid fee window configuration: " ++ cause.message
  | .replay cause => "fee window backfill failed: " ++ cause.message
  | .setup cause => "RPC server setup failed: " ++ cause.message
  | .address cause => "RPC server start failed: " ++ cause.message

/-- A service that can be called, and what it looks at. -/
structure RunningService where
  switchboard : Switchboard (Surroundings LedgerSession)
  traffic : Traffic (Surroundings LedgerSession)

/-- The scheme of the URLs of databases. -/
def databaseScheme : String := "sqlite:"

namespace Configuration

/-- The URL of the database; a path becomes one. -/
def databaseUrl (configuration : Configuration) : String :=
  if configuration.databasePath.startsWith databaseScheme then configuration.databasePath
  else databaseScheme ++ "//" ++ configuration.databasePath

/-- Starts the service. -/
def start (configuration : Configuration) (clock : ClockReading) : Except StartFault RunningService := do
  let database ← (Database.connect configuration.databaseUrl).mapError .database
  let database ← database.migrate.mapError .table
  let book ← configuration.feeBook.mapError .fees
  let (session, book, replayed) :=
    Replay.run configuration.replayedLedgers (LedgerSession.on database.table) book
  let _ ← replayed.mapError .replay
  let switchboard ← configuration.service.switchboard.mapError .setup
  let _ ← (Endpoint.listen configuration.endpoint).mapError .address
  return ⟨switchboard, switchboard.idleTraffic ⟨session, book, clock, []⟩⟩

end Configuration

namespace RunningService

/-- The service at another time of day. -/
def atTime (service : RunningService) (clock : ClockReading) : RunningService :=
  { service with traffic.surroundings.clock := clock }

/-- The reply to a message. -/
def reply (service : RunningService) (message : String) : RunningService × Reply :=
  let (traffic, reply) := service.switchboard.reply service.traffic message
  ({ service with traffic }, reply)

end RunningService

end LedgerService

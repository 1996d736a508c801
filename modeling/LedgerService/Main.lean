import LedgerService.Settings.Flags
import LedgerService.Startup
import Std.Time.DateTime.Timestamp

/-!
# The command line

Reads the configuration from flags, the environment and a file, starts the service, and replies to the messages on
standard input, one on each line.
-/

namespace LedgerService

/-- The flags that there are. -/
def usage : String :=
  "Usage: ledger-rpc [OPTIONS]\n\nOptions:\n" ++
    "      --config-path <CONFIG_PATH>\n      --endpoint <ENDPOINT>\n" ++
    "      --admin-endpoint <ADMIN_ENDPOINT>\n      --db-path <DB_PATH>\n" ++
    "      --log-format <LOG_FORMAT>\n      --log-level <LOG_LEVEL>\n" ++
    "      --network-passphrase <NETWORK_PASSPHRASE>\n  -h, --help\n  -V, --version\n"

/-- What is printed about words that are no flags, and the status with which the program ends. -/
def FlagFault.notice : FlagFault → String × UInt32
  | .helpWanted => (usage, 0)
  | .versionWanted => ("ledger-rpc " ++ serviceVersion ++ "\n", 0)
  | .unknownWord => ("error: unexpected argument found\n", 2)
  | .badValue => ("error: invalid or missing value\n", 2)
  | .surplusValue => ("error: unexpected value\n", 2)
  | .repeated => ("error: the argument cannot be used multiple times\n", 2)

/-- The keys of the settings. -/
def settingKeys : Schema Configuration → List String
  | .record _ fields _ _ => fields.keys
  | _ => []

/-- The variables of the environment that are settings. -/
def readVariables : IO (List (String × String)) :=
  (settingKeys Configuration.schema).filterMapM fun key => do
    let name := "LEDGER_RPC_" ++ key.toUpper
    return (← IO.getEnv name).map (name, ·)

/-- The settings file that the flags name. -/
def readSettings (flags : Flags) : IO SettingsFile :=
  match flags.configPath with
  | none => return .unnamed
  | some path => (SettingsFile.text <$> IO.FS.readFile path) <|> pure .missing

/-- The time of day. -/
def readClock : IO ClockReading := do
  return ⟨Int64.ofInt (← Std.Time.Timestamp.now).toMillisecondsSinceUnixEpoch.toInt⟩

/-- Replies to the messages on standard input until it ends. -/
partial def serve (service : RunningService) : IO Unit := do
  let line ← (← IO.getStdin).getLine
  if line.isEmpty then return ()
  let (service, reply) := (service.atTime (← readClock)).reply line
  if let some message := reply.message then
    IO.println message.compact
    (← IO.getStdout).flush
  serve service

end LedgerService

open LedgerService in
/-- Configures and starts the service. -/
def main (words : List String) : IO UInt32 := do
  match Flags.parse words with
  | .error fault =>
    let (notice, status) := fault.notice
    IO.eprint notice
    return status
  | .ok flags =>
    match Configuration.load (← readSettings flags) (← readVariables) flags with
    | .error fault =>
      IO.eprintln ("Error: " ++ fault.message)
      return 1
    | .ok configuration =>
      match configuration.start (← readClock) with
      | .error fault =>
        IO.eprintln ("Error: " ++ fault.message)
        return 1
      | .ok service =>
        serve service
        return 0

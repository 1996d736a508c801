import LedgerService.Settings.Configuration

/-!
# Flags

The flags of the command line. Each takes a value, in the same word behind an equals sign or in the next word. A
value is looked at only when the next flag appears or the words end, so an unknown word is noticed before.
-/

namespace LedgerService

/-- A flag. -/
inductive Flag where
  | configPath
  | endpoint
  | adminEndpoint
  | databasePath
  | logFormat
  | logLevel
  | passphrase
deriving DecidableEq, Repr, Inhabited

/-- What the flags say. -/
structure Flags where
  configPath : Option String
  endpoint : Option String
  adminEndpoint : Option String
  databasePath : Option String
  logFormat : Option LogFormat
  logLevel : Option String
  passphrase : Option String
deriving DecidableEq, Repr, Inhabited

/-- A reason why the words of a command line are not taken as flags. -/
inductive FlagFault where
  | unknownWord
  | badValue
  | surplusValue
  | repeated
  | helpWanted
  | versionWanted
deriving DecidableEq, Repr, Inhabited

namespace Flags

/-- No flags. -/
def none : Flags :=
  ⟨Option.none, Option.none, Option.none, Option.none, Option.none, Option.none, Option.none⟩

/-- The flag with a name. -/
def flag? : String → Option Flag
  | "config-path" => some .configPath
  | "endpoint" => some .endpoint
  | "admin-endpoint" => some .adminEndpoint
  | "db-path" => some .databasePath
  | "log-format" => some .logFormat
  | "log-level" => some .logLevel
  | "network-passphrase" => some .passphrase
  | _ => Option.none

/-- The flag was given before. -/
def gives (flags : Flags) : Flag → Bool
  | .configPath => flags.configPath.isSome
  | .endpoint => flags.endpoint.isSome
  | .adminEndpoint => flags.adminEndpoint.isSome
  | .databasePath => flags.databasePath.isSome
  | .logFormat => flags.logFormat.isSome
  | .logLevel => flags.logLevel.isSome
  | .passphrase => flags.passphrase.isSome

/-- The flags with one more, which has to be new and to fit its value. -/
def put (flags : Flags) (flag : Flag) (value : String) : Except FlagFault Flags :=
  if flags.gives flag then .error .repeated
  else
    match flag with
    | .configPath => if value.isEmpty then .error .badValue else .ok { flags with configPath := some value }
    | .endpoint => .ok { flags with endpoint := some value }
    | .adminEndpoint => .ok { flags with adminEndpoint := some value }
    | .databasePath => .ok { flags with databasePath := some value }
    | .logFormat =>
      match LogFormat.ofName? value with
      | some format => .ok { flags with logFormat := some format }
      | Option.none => .error .badValue
    | .logLevel => .ok { flags with logLevel := some value }
    | .passphrase => .ok { flags with passphrase := some value }

/-- A flag whose value has not been looked at yet, or has not appeared. -/
abbrev Pending := Option (Flag × Option String)

/-- Looks at the value of the pending flag. -/
def settle (flags : Flags) : Pending → Except FlagFault Flags
  | Option.none => .ok flags
  | some (_, Option.none) => .error .badValue
  | some (flag, some value) => flags.put flag value

/-- The word waits for no value. -/
def wantsValue : Pending → Option Flag
  | some (flag, Option.none) => some flag
  | _ => Option.none

/-- Takes a word that begins with two dashes: a name, and a value if there is an equals sign. -/
def takeLong (flags : Flags) (pending : Pending) (name : String) (value : Option String) :
    Except FlagFault (Flags × Pending) :=
  match flag? name with
  | some flag => do
    let flags ← flags.settle pending
    match value with
    | some value => return (← flags.put flag value, Option.none)
    | Option.none => return (flags, some (flag, Option.none))
  | Option.none =>
    if name = "help" || name = "version" then
      match value with
      | some _ => .error .surplusValue
      | Option.none => do
        let _ ← flags.settle pending
        throw (if name = "help" then .helpWanted else .versionWanted)
    else .error .unknownWord

/-- Takes a word that begins with one dash: the letter behind it decides. -/
def takeShort (flags : Flags) (pending : Pending) (letter : Char) : Except FlagFault (Flags × Pending) :=
  if letter = 'h' || letter = 'V' then do
    let _ ← flags.settle pending
    throw (if letter = 'h' then .helpWanted else .versionWanted)
  else .error .unknownWord

/-- Reads the words, and looks at the last value at their end. -/
def parseFrom (flags : Flags) (pending : Pending) : List String → Except FlagFault Flags
  | [] => flags.settle pending
  | word :: words =>
    match word.toList with
    | ['-', '-'] => if words.isEmpty then flags.settle pending else .error .unknownWord
    | '-' :: '-' :: rest => do
      let (name, value) := rest.span (· ≠ '=')
      let value := if value.isEmpty then Option.none else some (String.ofList value.tail)
      let (flags, pending) ← flags.takeLong pending (String.ofList name) value
      parseFrom flags pending words
    | '-' :: letter :: _ => do
      let (flags, pending) ← flags.takeShort pending letter
      parseFrom flags pending words
    | _ =>
      match wantsValue pending with
      | some flag => parseFrom flags (some (flag, some word)) words
      | Option.none => .error .unknownWord

/-- What the words of a command line say. -/
def parse (words : List String) : Except FlagFault Flags := parseFrom .none Option.none words

end Flags

/-- The configuration with what the flags say. -/
def Configuration.withFlags (configuration : Configuration) (flags : Flags) : Configuration :=
  { configuration with
    endpoint := flags.endpoint.getD configuration.endpoint
    adminEndpoint := flags.adminEndpoint <|> configuration.adminEndpoint
    databasePath := flags.databasePath.getD configuration.databasePath
    logFormat := flags.logFormat.getD configuration.logFormat
    logLevel := flags.logLevel.getD configuration.logLevel
    passphrase := flags.passphrase.getD configuration.passphrase }

/-- A reason why there is no configuration. -/
inductive ConfigurationFault where
  | unreadable
  | unfit
  | invalid (complaint : String)
deriving DecidableEq, Repr, Inhabited

/-- The wording of the reason. -/
def ConfigurationFault.message : ConfigurationFault → String
  | .unreadable => "failed to read configuration"
  | .unfit => "failed to parse configuration"
  | .invalid complaint => complaint

namespace Configuration

/-- The configuration of a file and the environment. -/
def ofSources (file : SettingsFile) (environment : List (String × String)) :
    Except ConfigurationFault Configuration :=
  match Setting.gather? file environment with
  | none => .error .unreadable
  | some setting =>
    match schema.adapt setting with
    | none => .error .unfit
    | some configuration => .ok configuration

/-- The configuration of all sources, if it is valid. -/
def load (file : SettingsFile) (environment : List (String × String)) (flags : Flags) :
    Except ConfigurationFault Configuration := do
  let configuration := (← ofSources file environment).withFlags flags
  match configuration.validate with
  | .ok () => return configuration
  | .error complaint => throw (.invalid complaint)

end Configuration

end LedgerService

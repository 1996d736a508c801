import LedgerService.Proofs.Settings.Layering
import LedgerService.Proofs.Settings.Verbatim

/-!
# Variables and flags

Five fields are texts that can be set by a variable of the environment and by a flag (`TextField`). A flag gives its text
to the field (`TextField.put_eq`). A variable gives the field what its text is printed as, and changes nothing else,
whatever other settings there are and whatever their names (`TextField.ofSources_variable`). So a variable and a flag
with the same text mean the same just if the text is written as it is printed
(`TextField.variable_means_flag_iff`), and a passphrase may lose its zeros on the way through the environment
(`TextField.passphrase_loses_zeros`).
-/

namespace LedgerService

/-- A field for a text that can be set by a variable and by a flag. -/
inductive TextField where
  | endpoint
  | adminEndpoint
  | databasePath
  | logLevel
  | passphrase

namespace TextField

open LedgerService.Configuration (Configurable configurables)
open Text (lowerCase)

/-- The field, among all that can be configured. -/
def configurable : TextField → Configurable
  | endpoint => ⟨_, "endpoint", .text, Configuration.endpoint, Flags.endpoint⟩
  | adminEndpoint =>
    ⟨_, "admin_endpoint", .optional .text, Configuration.adminEndpoint, fun flags => flags.adminEndpoint.map some⟩
  | databasePath => ⟨_, "db_path", .text, Configuration.databasePath, Flags.databasePath⟩
  | logLevel => ⟨_, "log_level", .text, Configuration.logLevel, Flags.logLevel⟩
  | passphrase => ⟨_, "network_passphrase", .text, Configuration.passphrase, Flags.passphrase⟩

/-- The key of the field. -/
def key (field : TextField) : String := field.configurable.key

/-- The flag for the field. -/
def flag : TextField → Flag
  | endpoint => .endpoint
  | adminEndpoint => .adminEndpoint
  | databasePath => .databasePath
  | logLevel => .logLevel
  | passphrase => .passphrase

/-- The text in the field, if there is one. -/
def text? (configuration : Configuration) : TextField → Option String
  | endpoint => some configuration.endpoint
  | adminEndpoint => configuration.adminEndpoint
  | databasePath => some configuration.databasePath
  | logLevel => some configuration.logLevel
  | passphrase => some configuration.passphrase

/-- The configuration with a text in the field. -/
def write (text : String) (configuration : Configuration) : TextField → Configuration
  | endpoint => { configuration with endpoint := text }
  | adminEndpoint => { configuration with adminEndpoint := some text }
  | databasePath => { configuration with databasePath := text }
  | logLevel => { configuration with logLevel := text }
  | passphrase => { configuration with passphrase := text }

variable {field : TextField}

@[simp]
theorem text?_write (text : String) (configuration : Configuration) :
    field.text? (field.write text configuration) = some text := by
  cases field with
  | _ => rfl

@[simp]
theorem write_write (text other : String) (configuration : Configuration) :
    field.write text (field.write other configuration) = field.write text configuration := by
  cases field with
  | _ => rfl

theorem mem_configurables (field : TextField) : field.configurable ∈ configurables := by
  cases field with
  | _ => simp [configurables, configurable]

theorem eq_configurable {other : Configurable} (member : other ∈ configurables) (same : other.key = field.key) :
    other = field.configurable :=
  List.inj_on_of_nodup_map Configuration.nodup_keys member field.mem_configurables same

theorem get_write {other : Configurable} (member : other ∈ configurables) (apart : other.key ≠ field.key)
    (text : String) (configuration : Configuration) :
    other.get (field.write text configuration) = other.get configuration := by
  cases field with
  | _ => fin_cases member <;> first | rfl | exact absurd rfl apart

/-- What denotes a text fits the field. -/
theorem adapt_configurable {setting : Setting} {text : String} (denotes : setting.text? = some text)
    (configuration : Configuration) :
    field.configurable.schema.adapt setting = some (field.configurable.get (field.write text configuration)) := by
  cases field with
  | adminEndpoint =>
      cases setting with
      | absent => cases denotes
      | _ => simpa [configurable, write, Schema.adapt] using denotes
  | _ => simpa [configurable, write, Schema.adapt] using denotes

theorem isLow_key (field : TextField) : ∀ character ∈ field.key.toList, Text.IsLow character := by
  have low : (field.key.toList.all fun character => decide (Text.IsLow character)) = true := by
    cases field with
    | _ => decide
  intro character member
  exact of_decide_eq_true (List.all_eq_true.mp low character member)

/-! ### Flags -/

variable {flags : Flags} {text : String}

/-- A flag that is new gives its text to the field. -/
theorem put_eq (free : flags.gives field.flag = false) (text : String) :
    ∃ given, flags.put field.flag text = .ok given ∧
      ∀ configuration : Configuration, configuration.withFlags given = field.write text (configuration.withFlags flags) := by
  unfold Flags.put
  rw [if_neg (by simp [free])]
  cases field with
  | _ => exact ⟨_, rfl, fun _ => rfl⟩

/-- The other flags leave the field as it is. -/
theorem withFlags_write (free : flags.gives field.flag = false) (text : String) (configuration : Configuration) :
    (field.write text configuration).withFlags flags = field.write text (configuration.withFlags flags) := by
  rcases flags with ⟨path, endpoint, admin, database, format, level, passphrase⟩
  cases field with
  | _ =>
      simp only [flag, Flags.gives, Option.isSome_eq_false_iff, Option.isNone_iff_eq_none] at free
      subst free
      rfl

/-! ### Variables -/

/-- The name is that of the variable for the field. -/
def Names (field : TextField) (name : String) : Prop := lowerCase name = "ledger_rpc_" ++ field.key

/-- The name is that of a variable that sets the field, or something within the field. -/
def Touches (field : TextField) (name : String) : Prop := ∃ key ∈ variableKey? name, Setting.root key = field.key

variable {before after : List (String × String)} {name : String}

theorem variableSettings_eq (named : field.Names name) (before after : List (String × String)) (text : String) :
    variableSettings (before ++ (name, text) :: after) =
      variableSettings before ++ (field.key, .ofVariable text) :: variableSettings after := by
  have found : variableKey? name = some field.key := variableKey?_eq_some.mpr named
  simp [variableSettings, found]

theorem root_ne_key (last : ∀ entry ∈ after, ¬field.Touches entry.1) :
    ∀ entry ∈ variableSettings after, Setting.root entry.1 ≠ field.key := by
  intro setting member same
  simp only [variableSettings, List.mem_filterMap, Option.map_eq_some_iff] at member
  rcases member with ⟨entry, inside, key, found, rfl⟩
  exact last entry inside ⟨key, found, same⟩

/-- A variable changes what is gathered under the key of its field, and nothing else. -/
theorem exists_gather? {file : SettingsFile} {settings : List (String × Setting)}
    (readable : file.settings? = some settings) (named : field.Names name)
    (last : ∀ entry ∈ after, ¬field.Touches entry.1) (before : List (String × String)) (text : String) :
    ∃ entries others, Setting.gather? file (before ++ (name, text) :: after) = some (.table entries) ∧
      Setting.gather? file (before ++ after) = some (.table others) ∧
      ∀ key, entries.lookup key = if key = field.key then some (.ofVariable text) else others.lookup key := by
  rcases Setting.exists_entries_gathered (settings ++ variableSettings (before ++ (name, text) :: after)) [] with
    ⟨entries, whole⟩
  rcases Setting.exists_entries_gathered (settings ++ variableSettings (before ++ after)) [] with ⟨others, less⟩
  refine ⟨entries, others, by rw [Setting.gather?_eq readable, whole], by rw [Setting.gather?_eq readable, less], ?_⟩
  intro key
  rcases Text.lowerCase_of_isLow field.isLow_key with ⟨plain, low⟩
  have inserted := Setting.find?_gathered_insert plain low (Setting.flat_ofVariable text) (root_ne_key last)
    (settings ++ variableSettings before) (.table []) key
  rw [List.append_assoc, ← variableSettings_eq named, whole, List.append_assoc] at inserted
  have together : variableSettings before ++ variableSettings after = variableSettings (before ++ after) :=
    List.filterMap_append.symm
  rw [together, less] at inserted
  exact inserted

/-- A variable gives the field what its text is printed as, and changes nothing else. -/
theorem ofSources_variable {file : SettingsFile} {configuration : Configuration} (named : field.Names name)
    (last : ∀ entry ∈ after, ¬field.Touches entry.1) (before : List (String × String)) (text : String)
    (read : Configuration.ofSources file (before ++ after) = .ok configuration) :
    Configuration.ofSources file (before ++ (name, text) :: after) =
      .ok (field.write (Setting.reprinted text) configuration) := by
  cases readable : file.settings? with
  | none => simp [Configuration.ofSources, Setting.gather?, readable] at read
  | some settings =>
      rcases exists_gather? readable named last before text with ⟨entries, others, whole, less, found⟩
      have adapted : Configuration.schema.adapt (.table others) = some configuration := by
        rw [Configuration.ofSources, less] at read
        cases fits : Configuration.schema.adapt (.table others) with
        | none => simp [fits] at read
        | some other => simpa [fits] using read
      have settled : Configuration.schema.adapt (.table entries) =
          some (field.write (Setting.reprinted text) configuration) := by
        apply Configuration.adapt_schema_of_settled?
        intro other member
        rw [found]
        by_cases own : other.key = field.key
        · rw [if_pos own, eq_configurable member own]
          exact adapt_configurable (Setting.text?_ofVariable text) configuration
        · rw [if_neg own, get_write member own]
          exact Configuration.settled?_of_adapt_schema adapted other member
      simp [Configuration.ofSources, whole, settled]

theorem eq_unfit_of_gather? {file : SettingsFile} {environment : List (String × String)} {fault : ConfigurationFault}
    {entries : List (String × Setting)} (gathered : Setting.gather? file environment = some (.table entries))
    (failed : Configuration.ofSources file environment = .error fault) : fault = .unfit := by
  rw [Configuration.ofSources, gathered] at failed
  cases fits : Configuration.schema.adapt (.table entries) with
  | none => simpa [fits] using failed.symm
  | some configuration => simp [fits] at failed

/-- A variable makes nothing fail that does not fail without it. -/
theorem ofSources_error {file : SettingsFile} {fault : ConfigurationFault} (named : field.Names name)
    (last : ∀ entry ∈ after, ¬field.Touches entry.1)
    (failed : Configuration.ofSources file (before ++ (name, text) :: after) = .error fault) :
    Configuration.ofSources file (before ++ after) = .error fault := by
  cases read : Configuration.ofSources file (before ++ after) with
  | ok configuration =>
      rw [ofSources_variable named last before text read] at failed
      cases failed
  | error other =>
      cases readable : file.settings? with
      | none =>
          rw [Configuration.ofSources, Setting.gather?, readable] at failed read
          exact read.symm.trans failed
      | some settings =>
          rcases exists_gather? readable named last before text with ⟨entries, others, whole, less, -⟩
          rw [eq_unfit_of_gather? whole failed, eq_unfit_of_gather? less read]

/--
A variable and a flag for the same field, beside the same other settings and flags. If there is a configuration without
them, there is one with the variable as well; with the flag the field has the text, with the variable what the text is
printed as, and the configurations differ in nothing else. So they are the same just if the text is written as it is
printed. The variable makes no configuration fail.
-/
theorem variable_means_flag_iff (field : TextField) (file : SettingsFile) (before after : List (String × String))
    (name text : String) (named : field.Names name) (last : ∀ entry ∈ after, ¬field.Touches entry.1) (flags : Flags)
    (free : flags.gives field.flag = false) :
    let bare := Configuration.ofSources file (before ++ after)
    let varied := Configuration.ofSources file (before ++ (name, text) :: after)
    ∃ given, flags.put field.flag text = .ok given ∧
      (∀ configuration, bare = .ok configuration → ∃ other, varied = .ok other ∧
        field.text? (configuration.withFlags given) = some text ∧
        field.text? (other.withFlags flags) = some (Setting.reprinted text) ∧
        other.withFlags flags = field.write (Setting.reprinted text) (configuration.withFlags given) ∧
        (other.withFlags flags = configuration.withFlags given ↔ Setting.Verbatim text)) ∧
      ∀ fault, varied = .error fault → bare = .error fault := by
  intro bare varied
  rcases put_eq free text with ⟨given, accepted, written⟩
  refine ⟨given, accepted, ?_, fun fault => ofSources_error named last⟩
  intro configuration read
  refine ⟨_, ofSources_variable named last before text read, ?_⟩
  rw [withFlags_write free, written, write_write, text?_write, text?_write, ← Setting.reprinted_eq_iff]
  refine ⟨rfl, rfl, rfl, ?_, fun same => by rw [same]⟩
  intro same
  have texts := congrArg field.text? same
  rw [text?_write, text?_write] at texts
  exact Option.some.inj texts

theorem names_passphrase : Names passphrase "LEDGER_RPC_NETWORK_PASSPHRASE" := by
  unfold Names
  decide +kernel

/-- A passphrase of words, after a variable for another field. -/
theorem variable_means_flag_words :
    let words := "Test SDF Network ; September 2015"
    let before := [("LEDGER_RPC_LOG_LEVEL", "007")]
    let after := [("HOME", "/root")]
    ∃ given configuration, Flags.none.put .passphrase words = .ok given ∧
      Configuration.ofSources .unnamed (before ++ after) = .ok configuration ∧
      Configuration.ofSources .unnamed (before ++ ("LEDGER_RPC_NETWORK_PASSPHRASE", words) :: after) =
        .ok (configuration.withFlags given) := by
  intro words before after
  have last : ∀ entry ∈ after, ∀ field : TextField, ¬field.Touches entry.1 := by
    have foreign : variableKey? "HOME" = none := by decide +kernel
    simp [after, Touches, foreign]
  have level : Names logLevel "LEDGER_RPC_LOG_LEVEL" := by
    unfold Names
    decide +kernel
  have bare : Configuration.ofSources .unnamed (before ++ after) =
      .ok (logLevel.write (Setting.reprinted "007") .standard) :=
    ofSources_variable level (fun entry member => last entry member _) [] "007" rfl
  rcases variable_means_flag_iff passphrase .unnamed before after _ words names_passphrase
    (fun entry member => last entry member _) Flags.none rfl with ⟨given, accepted, means, -⟩
  rcases means _ bare with ⟨other, varied, -, -, -, same⟩
  have blank : ' ' ∈ words.toList := by decide
  have verbatim := Setting.verbatim_of_mem blank (by decide) (by decide)
  refine ⟨given, _, accepted, bare, ?_⟩
  rw [varied, ← same.mpr verbatim]
  rfl

/-- On its way through the environment a passphrase loses its zeros; by its flag it does not. -/
theorem passphrase_loses_zeros :
    ∃ given configuration, Flags.none.put .passphrase "007" = .ok given ∧
      Configuration.ofSources .unnamed [] = .ok .standard ∧
      (Configuration.standard.withFlags given).passphrase = "007" ∧
      Configuration.ofSources .unnamed [("LEDGER_RPC_NETWORK_PASSPHRASE", "007")] = .ok configuration ∧
      configuration.passphrase = "7" := by
  have last : ∀ entry ∈ ([] : List (String × String)), ¬passphrase.Touches entry.1 := nofun
  have bare : Configuration.ofSources .unnamed [] = .ok .standard := rfl
  have varied := ofSources_variable names_passphrase last [] "007" bare
  have printed : Setting.reprinted "007" = "7" := by decide +kernel
  rw [printed] at varied
  exact ⟨_, _, rfl, bare, rfl, varied, rfl⟩

end TextField

end LedgerService

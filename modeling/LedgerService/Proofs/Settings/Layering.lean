import LedgerService.Proofs.Settings.Gathering
import LedgerService.Settings.Flags
import Mathlib.Tactic.FinCases

/-!
# Layers of the configuration

The schema of a record is a list of columns, each of which looks at one key only (`Fields.columns`): a table fits the
record just if it fits every column, and the record then has in every field what its column makes of its key
(`Column.adapt_eq_none`, `Column.find?_of_adapt`). The columns of the configuration are all that can be configured, each
with its flag (`Configuration.configurables`). So the layers, which are gathered into one table, do not interfere
(`Sources.layers_do_not_interfere`): each field is that of its flag, or else of its variable, or else of its entry in
the file, or else the standard one, and nothing but the setting that takes precedence can be unfit.
-/

namespace LedgerService

/-- A field of a record: where it is found among settings, what it is if it is not there, and the field itself. -/
structure Column (ρ : Type) where
  Value : Type
  key : String
  presence : Presence Value
  schema : Schema Value
  get : ρ → Value

/-- The value of the field that is found, or is not. -/
def Column.adapt? {ρ : Type} (column : Column ρ) : Option Setting → Option column.Value
  | some setting => column.schema.adapt setting
  | none => column.presence.whenMissing

/-- The fields of a record, which is taken apart into a tuple. -/
def Fields.columns {ρ : Type} : {α : Type} → Fields α → (ρ → α) → List (Column ρ)
  | _, .done, _ => []
  | _, .field key presence schema rest, split =>
    ⟨_, key, presence, schema, fun record => (split record).1⟩ :: rest.columns fun record => (split record).2

namespace Column

variable {ρ : Type} {entries : List (String × Setting)}

/-- What is found for the field among the entries of a table, and fits. -/
def find? (column : Column ρ) (entries : List (String × Setting)) : Option column.Value :=
  column.adapt? (entries.lookup column.key)

theorem adapt_field {α β : Type} (key : String) (presence : Presence α) (schema : Schema α) (rest : Fields β)
    (get : ρ → α) :
    (Fields.field key presence schema rest).adapt entries =
      ((⟨α, key, presence, schema, get⟩ : Column ρ).find? entries).bind fun value =>
        (rest.adapt entries).map fun others => (value, others) := by
  cases found : entries.lookup key with
  | none =>
      simp only [Fields.adapt, find?, found, adapt?]
      cases presence.whenMissing with
      | none => rfl
      | some value => cases rest.adapt entries <;> rfl
  | some setting =>
      simp only [Fields.adapt, find?, found, adapt?]
      cases schema.adapt setting with
      | none => rfl
      | some value => cases rest.adapt entries <;> rfl

/-- Fields fit a table just if each of them fits what is found for it. -/
theorem adapt_eq_none : {α : Type} → (fields : Fields α) → (split : ρ → α) →
    (fields.adapt entries = none ↔ ∃ column ∈ fields.columns split, column.find? entries = none)
  | _, .done, _ => by simp [Fields.adapt, Fields.columns]
  | _, .field key presence schema rest, split => by
      have others := adapt_eq_none rest fun record => (split record).2
      rw [adapt_field key presence schema rest fun record => (split record).1, Fields.columns, List.exists_mem_cons_iff,
        ← others]
      cases (⟨_, key, presence, schema, fun record => (split record).1⟩ : Column ρ).find? entries with
      | none => simp
      | some value => simp

/-- A record that fits a table has in every field what is found for it. -/
theorem find?_of_adapt {record : ρ} : {α : Type} → (fields : Fields α) → (split : ρ → α) →
    fields.adapt entries = some (split record) →
    ∀ column ∈ fields.columns split, column.find? entries = some (column.get record)
  | _, .done, _, _ => nofun
  | _, .field key presence schema rest, split, adapted => by
      rw [adapt_field key presence schema rest fun record => (split record).1] at adapted
      simp only [Option.bind_eq_some_iff, Option.map_eq_some_iff] at adapted
      rcases adapted with ⟨value, own, others, more, same⟩
      have first : value = (split record).1 := congrArg Prod.fst same
      have second : others = (split record).2 := congrArg Prod.snd same
      subst first second
      exact List.forall_mem_cons.mpr ⟨own, find?_of_adapt rest (fun record => (split record).2) more⟩

/-- Records with the same fields are taken apart into the same tuple. -/
theorem split_eq {one other : ρ} : {α : Type} → (fields : Fields α) → (split : ρ → α) →
    (∀ column ∈ fields.columns split, column.get one = column.get other) → split one = split other
  | _, .done, _, _ => rfl
  | _, .field _ _ _ rest, split, same => by
      rcases List.forall_mem_cons.mp same with ⟨first, others⟩
      exact Prod.ext first (split_eq rest (fun record => (split record).2) others)

end Column

namespace Configuration

/-- What can be configured: a field of the configuration, its key, and the flag that takes precedence over settings. -/
structure Configurable where
  Value : Type
  key : String
  schema : Schema Value
  get : Configuration → Value
  flag : Flags → Option Value

namespace Configurable

/-- A field that no flag changes. -/
def plain {α : Type} (key : String) (schema : Schema α) (get : Configuration → α) : Configurable :=
  ⟨α, key, schema, get, fun _ => none⟩

/-- The two fields of a method. -/
def ofMethod (name : String) (get : Configuration → MethodSettings) : List Configurable :=
  [plain ("request_backlog_get_" ++ name ++ "_queue_limit") .word64 fun configuration => (get configuration).queueLimit,
    plain ("max_get_" ++ name ++ "_execution_duration_ms") .word64 fun configuration =>
      (get configuration).maximumMillis]

/-- The field as the settings have it: the setting for its key if there is one, and else the standard one. -/
def settled? (field : Configurable) : Option Setting → Option field.Value
  | some setting => field.schema.adapt setting
  | none => some (field.get standard)

/-- The column of the field in the schema. -/
def column (field : Configurable) : Column Configuration :=
  ⟨field.Value, field.key, .defaulted (field.get standard), field.schema, field.get⟩

theorem find?_column (field : Configurable) (entries : List (String × Setting)) :
    field.column.find? entries = field.settled? (entries.lookup field.key) := by
  change field.column.adapt? (entries.lookup field.key) = _
  cases entries.lookup field.key with
  | none => rfl
  | some setting => rfl

theorem settled?_eq_none {field : Configurable} {found : Option Setting} :
    field.settled? found = none ↔ ∃ setting ∈ found, field.schema.adapt setting = none := by
  cases found with
  | none => simp [settled?]
  | some setting => simp [settled?]

theorem settled?_of_bind (field : Configurable) {found : Option Setting} {value : field.Value}
    (fits : found.bind field.schema.adapt = some value) : field.settled? found = some value := by
  cases found with
  | none => cases fits
  | some setting => exact fits

theorem settled?_of_isNone (field : Configurable) {found : Option Setting} (absent : found.isNone = true) :
    field.settled? found = some (field.get standard) := by
  rw [Option.isNone_iff_eq_none.mp absent]
  rfl

end Configurable

open Configurable (plain ofMethod)

/-- All that can be configured: under distinct keys (`nodup_keys`), and leaving no field out (`eq_of_get`). -/
def configurables : List Configurable :=
  [⟨_, "endpoint", .text, endpoint, Flags.endpoint⟩,
    ⟨_, "admin_endpoint", .optional .text, adminEndpoint, fun flags => flags.adminEndpoint.map some⟩,
    ⟨_, "db_path", .text, databasePath, Flags.databasePath⟩,
    ⟨_, "network_passphrase", .text, passphrase, Flags.passphrase⟩,
    plain "friendbot_url" (.optional .text) friendbotUrl,
    plain "history_retention_window" .word32 historyRetention,
    plain "classic_fee_stats_retention_window" .word32 classicRetention,
    plain "soroban_fee_stats_retention_window" .word32 contractRetention,
    plain "max_healthy_ledger_latency_ms" .word64 greatestLatencyMillis,
    plain "request_backlog_global_queue_limit" .word64 globalQueueLimit,
    plain "request_execution_warning_threshold_ms" .word64 globalWarningMillis,
    plain "max_request_execution_duration_ms" .word64 globalMaximumMillis] ++
  ofMethod "health" health ++ ofMethod "network" network ++ ofMethod "version_info" version ++
  ofMethod "latest_ledger" latestLedger ++ ofMethod "ledgers" ledgers ++ ofMethod "fee_stats" feeStats ++
  [plain "max_ledgers_limit" .word32 greatestPage,
    plain "default_ledgers_limit" .word32 usualPage,
    ⟨_, "log_level", .text, logLevel, Flags.logLevel⟩,
    ⟨_, "log_format", LogFormat.schema, logFormat, Flags.logFormat⟩]

theorem nodup_keys : (configurables.map Configurable.key).Nodup := by
  decide

/-- The fields of the schema are those that can be configured, in the same order. -/
theorem exists_fields_schema : ∃ (α : Type) (fields : Fields α) (build : α → Configuration) (split : Configuration → α),
    schema = .record "Config" fields build split ∧ (∀ values, split (build values) = values) ∧
      (∀ configuration, build (split configuration) = configuration) ∧
      fields.columns split = configurables.map Configurable.column :=
  ⟨_, _, _, _, rfl, fun _ => rfl, fun _ => rfl, rfl⟩

/-- Configurations that agree about all that can be configured are the same. -/
theorem eq_of_get {one other : Configuration} (same : ∀ field ∈ configurables, field.get one = field.get other) :
    one = other := by
  rcases exists_fields_schema with ⟨α, fields, build, split, -, -, inverse, columns⟩
  have apart : split one = split other := by
    apply Column.split_eq fields split
    rw [columns]
    exact List.forall_mem_map.mpr same
  rw [← inverse one, apart, inverse]

theorem adapt_schema_eq_none (entries : List (String × Setting)) : schema.adapt (.table entries) = none ↔
    ∃ field ∈ configurables, ∃ setting ∈ entries.lookup field.key, field.schema.adapt setting = none := by
  rcases exists_fields_schema with ⟨α, fields, build, split, record, -, -, columns⟩
  rw [record, Schema.adapt, Option.map_eq_none_iff, Column.adapt_eq_none fields split, columns]
  simp only [List.mem_map, exists_exists_and_eq_and, Configurable.find?_column]
  apply exists_congr
  intro field
  exact and_congr_right fun _ => Configurable.settled?_eq_none

theorem settled?_of_adapt_schema {entries : List (String × Setting)} {configuration : Configuration}
    (adapted : schema.adapt (.table entries) = some configuration) :
    ∀ field ∈ configurables, field.settled? (entries.lookup field.key) = some (field.get configuration) := by
  rcases exists_fields_schema with ⟨α, fields, build, split, record, inverse, -, columns⟩
  rw [record, Schema.adapt, Option.map_eq_some_iff] at adapted
  rcases adapted with ⟨values, found, rfl⟩
  rw [← inverse values] at found
  have all := Column.find?_of_adapt fields split found
  rw [columns] at all
  intro field member
  rw [← Configurable.find?_column]
  exact all field.column (List.mem_map_of_mem member)

/-- A table that settles every field describes the configuration with these fields. -/
theorem adapt_schema_of_settled? {entries : List (String × Setting)} {configuration : Configuration}
    (settled : ∀ field ∈ configurables, field.settled? (entries.lookup field.key) = some (field.get configuration)) :
    schema.adapt (.table entries) = some configuration := by
  cases adapted : schema.adapt (.table entries) with
  | none =>
      rcases (adapt_schema_eq_none entries).mp adapted with ⟨field, member, unfit⟩
      rw [← Configurable.settled?_eq_none, settled field member] at unfit
      cases unfit
  | some other =>
      have same : other = configuration := by
        apply eq_of_get
        intro field member
        exact Option.some.inj ((settled?_of_adapt_schema adapted field member).symm.trans (settled field member))
      rw [same]

theorem get_withFlags (configuration : Configuration) (flags : Flags) : ∀ field ∈ configurables,
    field.get (configuration.withFlags flags) = (field.flag flags).getD (field.get configuration) := by
  intro field member
  -- the endpoint of the administration is the only optional field with a flag
  rcases flags with ⟨path, endpoint, none | admin, database, format, level, passphrase⟩
  · fin_cases member <;> rfl
  · fin_cases member <;> rfl

end Configuration

namespace Sources

open LedgerService.Configuration (Configurable configurables)
open LedgerService.Configuration.Configurable (plain)

/-- The configuration of both sources. -/
def read (sources : Sources) : Except ConfigurationFault Configuration :=
  Configuration.ofSources sources.file sources.environment

/-- The file is not there, or it is no TOML document. -/
def Unreadable (sources : Sources) : Prop :=
  sources.file = .missing ∨
    ∃ content, sources.file = .text content ∧ Toml.parse (String.ofList (Toml.withoutMark content.toList)) = none

/-- A setting that takes precedence does not fit its field. -/
def Unfit (sources : Sources) : Prop :=
  ∃ field ∈ configurables, ∃ setting ∈ sources.setting? field.key, field.schema.adapt setting = none

theorem unreadable_iff (sources : Sources) : sources.Unreadable ↔ sources.file.settings? = none := by
  rw [Unreadable]
  cases sources.file with
  | unnamed => simp [SettingsFile.settings?]
  | missing => simp [SettingsFile.settings?]
  | text content =>
      cases parsed : Toml.parse (String.ofList (Toml.withoutMark content.toList)) with
      | none => simp [SettingsFile.settings?, parsed]
      | some document => simp [SettingsFile.settings?, parsed]

theorem read_cases (sources : Sources) :
    (sources.Unreadable ∧ sources.read = .error .unreadable) ∨
    (¬sources.Unreadable ∧ sources.Unfit ∧ sources.read = .error .unfit) ∨
    (¬sources.Unreadable ∧ ¬sources.Unfit ∧ ∃ configuration, sources.read = .ok configuration ∧
      ∀ field ∈ configurables, field.settled? (sources.setting? field.key) = some (field.get configuration)) := by
  rw [unreadable_iff, Unfit, read, Configuration.ofSources]
  cases readable : sources.file.settings? with
  | none => simp [Setting.gather?, readable]
  | some settings =>
      rcases sources.find?_gather readable with ⟨entries, gathered, found⟩
      have unfit := Configuration.adapt_schema_eq_none entries
      simp only [found] at unfit
      cases adapted : Configuration.schema.adapt (.table entries) with
      | none =>
          right
          left
          exact ⟨by simp, unfit.mp adapted, by simp [gathered, adapted]⟩
      | some configuration =>
          have settled := Configuration.settled?_of_adapt_schema adapted
          simp only [found] at settled
          right
          right
          refine ⟨by simp, ?_, configuration, by simp [gathered, adapted], settled⟩
          rw [← unfit, adapted]
          exact Option.some_ne_none configuration

theorem read_eq_unreadable (sources : Sources) : sources.read = .error .unreadable ↔ sources.Unreadable := by
  rcases sources.read_cases with ⟨unreadable, read⟩ | ⟨readable, -, read⟩ | ⟨readable, -, configuration, read, -⟩
  · simp [read, unreadable]
  · simp [read, readable]
  · simp [read, readable]

theorem read_eq_unfit (sources : Sources) :
    sources.read = .error .unfit ↔ ¬sources.Unreadable ∧ sources.Unfit := by
  rcases sources.read_cases with ⟨unreadable, read⟩ | ⟨readable, unfit, read⟩ | ⟨-, fit, configuration, read, -⟩
  · simp [read, unreadable]
  · simp [read, readable, unfit]
  · simp [read, fit]

theorem exists_read_eq_ok (sources : Sources) :
    (∃ configuration, sources.read = .ok configuration) ↔ ¬sources.Unreadable ∧ ¬sources.Unfit := by
  rcases sources.read_cases with ⟨unreadable, read⟩ | ⟨-, unfit, read⟩ | ⟨readable, fit, configuration, read, -⟩
  · simp [read, unreadable]
  · simp [read, unfit]
  · simp [read, readable, fit]

theorem get_withFlags (sources : Sources) (flags : Flags) {configuration : Configuration}
    (read : sources.read = .ok configuration) : ∀ field ∈ configurables,
    some (field.get (configuration.withFlags flags)) =
      (field.flag flags).or (field.settled? (sources.setting? field.key)) := by
  intro field member
  rcases sources.read_cases with ⟨-, failed⟩ | ⟨-, -, failed⟩ | ⟨-, -, found, succeeded, settled⟩
  · simp [failed] at read
  · simp [failed] at read
  · rw [succeeded, Except.ok.injEq] at read
    subst read
    rw [settled field member, Configuration.get_withFlags found flags field member]
    cases field.flag flags with
    | none => rfl
    | some value => rfl

/--
The layers of the configuration do not interfere. There is no configuration just if the file cannot be read, or if the
setting for some key in the source that takes precedence does not fit its field. Otherwise each field is that of its
flag if the flag was given, or else the setting for its key in the environment, or else the one in the file, or else the
standard one; and nothing else makes a difference to it.
-/
theorem layers_do_not_interfere (sources : Sources) (flags : Flags) :
    (sources.read = .error .unreadable ↔ sources.Unreadable) ∧
    (sources.read = .error .unfit ↔ ¬sources.Unreadable ∧ sources.Unfit) ∧
    ((∃ configuration, sources.read = .ok configuration) ↔ ¬sources.Unreadable ∧ ¬sources.Unfit) ∧
    (∀ configuration, sources.read = .ok configuration → ∀ field ∈ configurables,
      some (field.get (configuration.withFlags flags)) =
        (field.flag flags).or (field.settled? (sources.setting? field.key))) ∧
    ∀ (others : Sources) (otherFlags : Flags) one other, sources.read = .ok one → others.read = .ok other →
      ∀ field ∈ configurables, sources.setting? field.key = others.setting? field.key →
        field.flag flags = field.flag otherFlags →
        field.get (one.withFlags flags) = field.get (other.withFlags otherFlags) := by
  refine ⟨sources.read_eq_unreadable, sources.read_eq_unfit, sources.exists_read_eq_ok,
    fun configuration => sources.get_withFlags flags, ?_⟩
  intro others otherFlags one other read otherRead field member same sameFlag
  have own := sources.get_withFlags flags read field member
  have another := others.get_withFlags otherFlags otherRead field member
  rw [← same, ← sameFlag, ← own] at another
  exact (Option.some.inj another).symm

/-- A file whose second entry does not fit its field. -/
def misfitFile : SettingsFile := .text "Max_Ledgers_Limit=300\ndefault_ledgers_limit=[]"

/-- The file with an environment that hides the second entry. -/
def hiddenMisfit : Sources where
  file := misfitFile
  environment := [("LEDGER_RPC_DEFAULT_LEDGERS_LIMIT", "7"), ("HOME", "many")]
  fileNamed := by
    intro settings readable
    have names : misfitFile.settings?.map (List.map Prod.fst) =
        some ["Max_Ledgers_Limit", "default_ledgers_limit"] := by
      decide +kernel
    rw [Option.mem_def.mp readable, Option.map_some, Option.some.injEq] at names
    rw [names]
    exact ⟨by decide +kernel, by decide +kernel⟩
  environmentNamed := ⟨by decide +kernel, by decide +kernel⟩

theorem layers_do_not_interfere_hiddenMisfit :
    let flags : Flags := { Flags.none with endpoint := some "0.0.0.0" }
    ∃ configuration, hiddenMisfit.read = .ok configuration ∧ (configuration.withFlags flags).endpoint = "0.0.0.0" ∧
      (configuration.withFlags flags).greatestPage = 300 ∧ (configuration.withFlags flags).usualPage = 7 ∧
      (configuration.withFlags flags).logLevel = "info" := by
  intro flags
  let endpoint : Configurable := ⟨_, "endpoint", .text, Configuration.endpoint, Flags.endpoint⟩
  let greatest : Configurable := plain "max_ledgers_limit" .word32 Configuration.greatestPage
  let usual : Configurable := plain "default_ledgers_limit" .word32 Configuration.usualPage
  let level : Configurable := ⟨_, "log_level", .text, Configuration.logLevel, Flags.logLevel⟩
  have fromFile : (hiddenMisfit.setting? greatest.key).bind Schema.word32.adapt = some 300 := by decide +kernel
  have fromEnvironment : (hiddenMisfit.setting? usual.key).bind Schema.word32.adapt = some 7 := by decide +kernel
  have nowhere : (hiddenMisfit.setting? level.key).isNone = true := by decide +kernel
  have readable : hiddenMisfit.read.toOption.isSome = true := by decide +kernel
  cases read : hiddenMisfit.read with
  | error fault =>
      rw [read] at readable
      cases readable
  | ok configuration =>
      rcases layers_do_not_interfere hiddenMisfit flags with ⟨-, -, -, layered, -⟩
      have value := layered configuration read
      have flagValue := value endpoint (by simp [endpoint, configurables])
      have fileValue := value greatest (by simp [greatest, configurables])
      have environmentValue := value usual (by simp [usual, configurables])
      have standardValue := value level (by simp [level, configurables])
      rw [greatest.settled?_of_bind fromFile] at fileValue
      rw [usual.settled?_of_bind fromEnvironment] at environmentValue
      rw [level.settled?_of_isNone nowhere] at standardValue
      exact ⟨configuration, rfl, Option.some.inj flagValue, Option.some.inj fileValue,
        Option.some.inj environmentValue, Option.some.inj standardValue⟩

end Sources

end LedgerService

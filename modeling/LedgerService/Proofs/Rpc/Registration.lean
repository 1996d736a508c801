import LedgerService.Proofs.Rpc.Assembly
import LedgerService.Rpc.Service

/-!
# Registrations

Which switchboards can be put together. An assembly fails when a metric is refused, when a method comes twice, or
when the limits of the server are refused. `Assembly.Registers` says of an assembly that it does not fail in a
registry to which the names of its metrics are new, and that it adds just these names; it is shown piece by piece
along the assembly. The names of the metrics depend on the names of the methods alone, so the service, whose methods
have fixed names, can be put together whenever its limits are valid (`ServiceConfig.exists_switchboard_iff`).
-/

namespace LedgerService

variable {σ : Type}

namespace Metrics

/-- The text consists of characters that the name of a metric may have after the first. -/
def Spells (text : String) : Prop :=
  ∀ character ∈ text.toList, (isNameStart character || character.isDigit || character = ':') = true

instance (text : String) : Decidable (Spells text) := List.decidableBAll _ text.toList

theorem Spells.append {front back : String} (first : Spells front) (second : Spells back) : Spells (front ++ back) := by
  simp only [Spells, String.toList_append, List.forall_mem_append]
  exact ⟨first, second⟩

theorem isMetricName_append {front back : String} (named : isMetricName front = true) (spelled : Spells back) :
    isMetricName (front ++ back) = true := by
  simp only [isMetricName, String.toList_append] at named ⊢
  cases letters : front.toList with
  | nil => simp [letters, wellFormed] at named
  | cons first others =>
      simp only [letters, wellFormed, List.cons_append, List.all_append, Bool.and_eq_true] at named ⊢
      exact ⟨named.1, named.2, List.all_eq_true.mpr spelled⟩

theorem isEmpty_of_isMetricName {name : String} (named : isMetricName name = true) : name.isEmpty = false := by
  cases empty : name.isEmpty with
  | false => rfl
  | true => simp_all [isMetricName, wellFormed]

theorem isEmpty_append_right (front : String) {back : String} (filled : back.isEmpty = false) :
    (front ++ back).isEmpty = false := by
  simp_all

/-- A full name is well-formed if its first part is, and the others have no other characters than its own. -/
theorem isMetricName_fullName {space subsystem name : String} (named : isMetricName space = true)
    (within : Spells subsystem) (sorted : subsystem.isEmpty = false) (own : Spells name)
    (filled : name.isEmpty = false) : isMetricName (fullName space subsystem name) = true := by
  have joined : fullName space subsystem name = space ++ ("_" ++ subsystem ++ ("_" ++ name)) := by
    simp [fullName, isEmpty_of_isMetricName named, sorted, filled, String.append_assoc]
  have underscore : Spells "_" := by decide
  rw [joined]
  apply isMetricName_append named
  exact (underscore.append within).append (underscore.append own)

theorem checkDescription_eq_ok {name help : String} {labels : List String} (wellFormed : isMetricName name = true)
    (helpful : help.isEmpty = false) (labelled : checkLabels [] labels = .ok ()) :
    checkDescription name help labels = .ok () := by
  simp [checkDescription, wellFormed, helpful, labelled]

end Metrics

namespace Registry

open Metrics

/-- The full names of the registered metrics. -/
def names (registry : Registry) : List String := registry.families.map Family.name

variable {registry : Registry} {subsystem name help : String}

theorem isSome_find? : (registry.find? name).isSome ↔ name ∈ registry.names := by
  simp [find?, names]

theorem register_of_fresh {labels : List String} (readings : Readings)
    (fresh : fullName registry.space subsystem name ∉ registry.names)
    (described : checkDescription (fullName registry.space subsystem name) help labels = .ok ()) :
    ∃ left,
      registry.register subsystem name help labels readings =
        .ok (left, fullName registry.space subsystem name) ∧
      left.space = registry.space ∧ left.names = registry.names ++ [fullName registry.space subsystem name] := by
  rw [← isSome_find?] at fresh
  let family : Family := ⟨fullName registry.space subsystem name, help, readings⟩
  refine ⟨⟨registry.space, registry.families ++ [family]⟩, ?_, rfl, ?_⟩
  · simp only [register, described, fresh, bind, Except.bind, Bool.false_eq_true, if_false]
    rfl
  · simp [names, family]

end Registry

namespace Assembly

open Metrics

variable {α β : Type}

/-- The assembly does not fail in a registry to which the names are new, and adds them to it. -/
def Registers (space : String) (assembly : Assembly α) (names : List String) : Prop :=
  ∀ registry : Registry, registry.space = space → (registry.names ++ names).Nodup →
    ∃ value left, assembly.run.run registry = (.ok value, left) ∧ left.space = space ∧
      left.names = registry.names ++ names

namespace Registers

variable {space : String} {assembly : Assembly α} {names others : List String}

theorem pure (value : α) : Registers space (Pure.pure value : Assembly α) [] := by
  intro registry same _
  exact ⟨value, registry, rfl, same, (List.append_nil _).symm⟩

/-- An assembly of two steps adds what the first adds and then what the second adds. -/
theorem bind {next : α → Assembly β} (first : assembly.Registers space names)
    (second : ∀ value, (next value).Registers space others) :
    (assembly >>= next).Registers space (names ++ others) := by
  intro registry same fresh
  rw [← List.append_assoc] at fresh
  rcases first registry same fresh.of_append_left with ⟨value, middle, ran, kept, added⟩
  rw [← added] at fresh
  rcases second value middle kept fresh with ⟨final, left, done, same', all⟩
  refine ⟨final, left, ?_, same', ?_⟩
  · rw [run_bind, ran]
    exact done
  · rw [all, added, List.append_assoc]

/-- What follows the last metric does not matter. -/
theorem last {next : α → β} (first : assembly.Registers space names) :
    (assembly >>= fun value => Pure.pure (next value)).Registers space names := by
  have followed := first.bind fun value => pure (next value)
  rwa [List.append_nil] at followed

end Registers

theorem run_register (registration : Registry → Except MetricFailure (Registry × String)) (registry : Registry) :
    (register registration).run.run registry =
      match registration registry with
      | .ok (left, name) => (.ok name, left)
      | .error failure => (.error (.metrics failure), registry) := by
  rw [register, run_bind]
  show (match registration registry with
    | .ok (left, name) => _
    | .error failure => _ : Assembly String).run.run registry = _
  cases registration registry <;> rfl

variable {space subsystem name help : String}

theorem registers_register {labels : List String} {readings : Readings}
    (described : checkDescription (fullName space subsystem name) help labels = .ok ()) :
    (register fun registry => registry.register subsystem name help labels readings).Registers space
      [fullName space subsystem name] := by
  rintro registry rfl fresh
  have unknown : fullName registry.space subsystem name ∉ registry.names := by
    intro known
    exact (List.nodup_append.mp fresh).2.2 _ known _ (List.mem_singleton_self _) rfl
  rcases Registry.register_of_fresh readings unknown described with ⟨left, registered, same, added⟩
  refine ⟨fullName registry.space subsystem name, left, ?_, same, added⟩
  simp [run_register, registered]

theorem registers_gauge (wellFormed : isMetricName (fullName space networkSubsystem name) = true)
    (helpful : help.isEmpty = false) : (gauge name help).Registers space [fullName space networkSubsystem name] :=
  registers_register (checkDescription_eq_ok wellFormed helpful rfl)

theorem registers_counter (wellFormed : isMetricName (fullName space networkSubsystem name) = true)
    (helpful : help.isEmpty = false) : (counter name help).Registers space [fullName space networkSubsystem name] :=
  registers_register (checkDescription_eq_ok wellFormed helpful rfl)

theorem isEmpty_thresholdHelp (subject threshold : String) : (thresholdHelp subject threshold).isEmpty = false :=
  isEmpty_append_right _ (by decide)

theorem isMetricName_network (named : isMetricName space = true) (own : Spells name) (filled : name.isEmpty = false) :
    isMetricName (fullName space networkSubsystem name) = true :=
  isMetricName_fullName named (by decide) (by decide) own filled

end Assembly

open Metrics Assembly

namespace Enclosure

/-- The full names of the metrics around a method. -/
def methodMetrics (space method : String) : List String :=
  [Text.snakeCase method ++ "_inflight_requests", Text.snakeCase method ++ "_rejected_requests",
    Text.snakeCase method ++ "_execution_threshold_warning",
    Text.snakeCase method ++ "_execution_threshold_limit"].map (fullName space networkSubsystem)

/-- The full names of the metrics around all methods. -/
def globalMetrics (space : String) : List String :=
  ["global_inflight_requests", "global_rejected_requests", "global_request_execution_duration_threshold_warning",
    "global_request_execution_duration_threshold_limit"].map (fullName space networkSubsystem)

variable {space : String}

theorem ofMethod_registers (named : isMetricName space = true) {method : String} (limits : MethodLimits)
    (spelled : Spells (Text.snakeCase method)) :
    (ofMethod method limits).Registers space (methodMetrics space method) := by
  have wellFormed : ∀ ending, Spells ending → ending.isEmpty = false →
      isMetricName (fullName space networkSubsystem (Text.snakeCase method ++ ending)) = true := by
    intro ending ends filled
    exact isMetricName_network named (spelled.append ends) (isEmpty_append_right _ filled)
  refine (registers_gauge (wellFormed _ (by decide) (by decide)) (by simp)).bind fun _ => ?_
  refine (registers_counter (wellFormed _ (by decide) (by decide)) (by simp)).bind fun _ => ?_
  refine (registers_counter (wellFormed _ (by decide) (by decide)) (isEmpty_thresholdHelp _ _)).bind fun _ => ?_
  exact (registers_counter (wellFormed _ (by decide) (by decide)) (isEmpty_thresholdHelp _ _)).last

theorem ofAll_registers (named : isMetricName space = true) {limits : GlobalLimits}
    (valid : limits.validate = .ok ()) : (ofAll limits).Registers space (globalMetrics space) := by
  have wellFormed : ∀ name, Spells name → name.isEmpty = false →
      isMetricName (fullName space networkSubsystem name) = true := by
    intro name own filled
    exact isMetricName_network named own filled
  rw [ofAll, valid]
  refine (Registers.pure ()).bind fun _ => ?_
  refine (registers_gauge (wellFormed _ (by decide) (by decide)) (by decide)).bind fun _ => ?_
  refine (registers_counter (wellFormed _ (by decide) (by decide)) (by decide)).bind fun _ => ?_
  refine (registers_counter (wellFormed _ (by decide) (by decide)) (isEmpty_thresholdHelp _ _)).bind fun _ => ?_
  exact (registers_counter (wellFormed _ (by decide) (by decide)) (isEmpty_thresholdHelp _ _)).last

end Enclosure

namespace Switchboard

open Enclosure

variable {space : String}

theorem addMethods_registers (named : isMetricName space = true) {methods : List (Method σ)}
    (enclosures : List Enclosure) (dispatcher : Dispatcher (Nat × Handler σ))
    (spelled : ∀ name ∈ methods.map Method.name, Spells (Text.snakeCase name))
    (distinct : (dispatcher.names ++ methods.map Method.name).Nodup) :
    (addMethods methods enclosures dispatcher).Registers space
      ((methods.map Method.name).flatMap (methodMetrics space)) := by
  induction methods generalizing enclosures dispatcher with
  | nil => exact Registers.pure _
  | cons method methods ih =>
      rw [List.map_cons, List.forall_mem_cons] at spelled
      rw [List.map_cons, List.flatMap_cons, addMethods]
      refine (ofMethod_registers named method.limits spelled.1).bind fun enclosure => ?_
      have fresh : method.name ∉ dispatcher.names := by
        intro known
        exact (List.nodup_append.mp distinct).2.2 _ known _ (List.mem_map_of_mem List.mem_cons_self) rfl
      rw [← Dispatcher.isSome_find?] at fresh
      simp only [Dispatcher.insert, fresh, Bool.false_eq_true, if_false, Bool.not_true]
      apply ih _ _ spelled.2
      simpa [Dispatcher.names] using distinct

/-- The full names of the metrics of a switchboard, in the order of their registration. -/
def metrics (space : String) (methods : List String) : List String :=
  fullName space requestSubsystem "request_duration_seconds" ::
    (methods.flatMap (methodMetrics space) ++ globalMetrics space)

theorem assemble_registers (named : isMetricName space = true) {methods : List (Method σ)} {limits : GlobalLimits}
    (spelled : ∀ name ∈ methods.map Method.name, Spells (Text.snakeCase name))
    (distinct : (methods.map Method.name).Nodup) (valid : limits.validate = .ok ()) :
    (assemble methods limits).Registers space (metrics space (methods.map Method.name)) := by
  have durable : isMetricName (fullName space requestSubsystem "request_duration_seconds") = true := by
    apply isMetricName_fullName named <;> decide
  have helpful : "JSON RPC request duration".isEmpty = false := by decide
  have labelled : checkLabels [] ["endpoint", "status"] = .ok () := by decide
  refine (registers_register (checkDescription_eq_ok durable helpful labelled)).bind fun histogram => ?_
  refine (addMethods_registers named [] .empty spelled distinct).bind fun _ => ?_
  exact (ofAll_registers named valid).last

/-- Methods whose metrics have well-formed and distinct names can be put together under all valid limits. -/
theorem exists_build {methods : List (Method σ)} {limits : GlobalLimits} {names : List String}
    (same : methods.map Method.name = names) (spelled : ∀ name ∈ names, Spells (Text.snakeCase name))
    (distinct : names.Nodup) (unlike : (metrics "ledger_rpc" names).Nodup) (valid : limits.validate = .ok ()) :
    ∃ switchboard, build methods limits = .ok switchboard := by
  rcases same
  have named : isMetricName "ledger_rpc" = true := by decide
  rcases assemble_registers named spelled distinct valid (.empty "ledger_rpc") rfl unlike with
    ⟨switchboard, left, ran, -⟩
  exact ⟨switchboard, congrArg Prod.fst ran⟩

end Switchboard

namespace ServiceConfig

variable [LedgerSource σ]

/-- The names of the methods of the service. -/
def methodNames : List String :=
  ["getHealth", "getNetwork", "getVersionInfo", "getLatestLedger", "getLedgers", "getFeeStats"]

theorem map_name_methodList (config : ServiceConfig) :
    (config.methodList (σ := σ)).map Method.name = methodNames := rfl

theorem eq_of_name {config : ServiceConfig} {method other : Method (Surroundings σ)}
    (offered : method ∈ config.methodList) (another : other ∈ config.methodList) (same : method.name = other.name) :
    method = other := by
  have distinct : (config.methodList.map (Method.name (σ := Surroundings σ))).Nodup := by
    rw [map_name_methodList]
    decide
  exact List.inj_on_of_nodup_map distinct offered another same

theorem ledgers_mem_methodList (config : ServiceConfig) :
    ⟨"getLedgers", config.methods.ledgers, answerLedgers config.pages⟩ ∈ config.methodList (σ := σ) := by
  simp [methodList]

theorem health_mem_methodList (config : ServiceConfig) :
    ⟨"getHealth", config.methods.health, answerHealth config.retention config.greatestLatency⟩ ∈
      config.methodList (σ := σ) := by
  simp [methodList]

theorem nodup_metrics : (Switchboard.metrics "ledger_rpc" methodNames).Nodup := by
  decide +kernel

/-- Nothing but the limits of the server decides whether the service can be put together. -/
theorem exists_switchboard_iff (config : ServiceConfig) :
    (∃ switchboard, config.switchboard (σ := σ) = .ok switchboard) ↔ config.limits.validate = .ok () := by
  constructor
  · rintro ⟨switchboard, built⟩
    exact (Switchboard.made_of_build built).valid
  · intro valid
    apply Switchboard.exists_build config.map_name_methodList _ (by decide) nodup_metrics valid
    decide +kernel

end ServiceConfig

end LedgerService

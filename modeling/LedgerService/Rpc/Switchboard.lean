import LedgerService.Metrics.Registry
import LedgerService.Rpc.Dispatcher
import LedgerService.Text.Casing
import LedgerService.Traffic.Limits
import LedgerService.Traffic.Machine

/-!
# Switchboards

How limits are put around handlers. A method has a governor outside and a gate inside; the server has a governor
and a gate of its own around all methods. The meters of both are registered on the way, and stay registered when a
later step fails.
-/

namespace LedgerService

/-- Work that registers metrics; what was registered before a failure stays registered. -/
abbrev Assembly := ExceptT SetupError (StateM Registry)

namespace Assembly

/-- Does one registration. -/
def register (registration : Registry → Except MetricFailure (Registry × String)) : Assembly String := do
  match registration (← get) with
  | .ok (registry, name) =>
    set registry
    return name
  | .error failure => throw (.metrics failure)

/-- The subsystem of the metrics of gates and governors. -/
def networkSubsystem : String := "network"

/-- Registers a gauge of the network subsystem. -/
def gauge (name help : String) : Assembly String :=
  register fun registry => registry.addGauge networkSubsystem name help

/-- Registers a counter of the network subsystem. -/
def counter (name help : String) : Assembly String :=
  register fun registry => registry.addCounter networkSubsystem name help

/-- The subsystem of the metrics of requests. -/
def requestSubsystem : String := "json_rpc"

/-- Registers the histogram of request durations. -/
def durations : Assembly String :=
  register fun registry =>
    registry.addHistogram requestSubsystem "request_duration_seconds" "JSON RPC request duration"
      ["endpoint", "status"]

/-- The help text of a counter of slow requests. -/
def thresholdHelp (subject threshold : String) : String :=
  "The metric measures the count of " ++ subject ++ " that surpassed the " ++ threshold ++
    " threshold for execution time"

end Assembly

/-- What stands around the handler of a method, or around all methods. -/
structure Enclosure where
  governor : Governor
  gate : Gate
deriving Repr, Inhabited

namespace Enclosure

open Assembly

/-- The enclosure of a method. -/
def ofMethod (method : String) (limits : MethodLimits) : Assembly Enclosure := do
  let snake := Text.snakeCase method
  let subject := method ++ " requests"
  let inFlight ← gauge (snake ++ "_inflight_requests") ("Number of concurrently in-flight " ++ subject)
  let rejections ← counter (snake ++ "_rejected_requests")
    ("Number of " ++ subject ++ " rejected by the queue limit")
  let warnings ← counter (snake ++ "_execution_threshold_warning") (thresholdHelp subject "warning")
  let expirations ← counter (snake ++ "_execution_threshold_limit") (thresholdHelp subject "limit")
  return {
    governor := .idle method limits.warning limits.maximum (some ⟨warnings, expirations⟩)
    gate := .idle method limits.queueLimit (some ⟨inFlight, rejections⟩) }

/-- The enclosure of all methods. -/
def ofAll (limits : GlobalLimits) : Assembly Enclosure := do
  ExceptT.mk (pure limits.validate)
  let inFlight ← gauge "global_inflight_requests" "Number of concurrently in-flight requests"
  let rejections ← counter "global_rejected_requests" "Number of requests rejected by the global queue limit"
  let warnings ← counter "global_request_execution_duration_threshold_warning" (thresholdHelp "requests" "warning")
  let expirations ← counter "global_request_execution_duration_threshold_limit" (thresholdHelp "requests" "limit")
  return {
    governor := .idle globalResource limits.warning limits.maximum (some ⟨warnings, expirations⟩)
    gate := .idle globalResource limits.queueLimit (some ⟨inFlight, rejections⟩) }

end Enclosure

/-- A method of a switchboard: its name, its limits and its handler. -/
structure Method (σ : Type) where
  name : String
  limits : MethodLimits
  handler : Handler σ

/-- The limits and handlers of a server, put together. -/
structure Switchboard (σ : Type) where
  /-- What stands around all methods. -/
  outermost : Enclosure
  /-- What stands around each method, in the order of the methods. -/
  enclosures : List Enclosure
  /-- For each method its position and its handler. -/
  methods : Dispatcher (Nat × Handler σ)
  /-- The full name of the histogram of request durations. -/
  histogram : String

namespace Switchboard

variable {σ : Type}

/-- Puts the methods in, one after the other, each at the next position. -/
def addMethods : List (Method σ) → List Enclosure → Dispatcher (Nat × Handler σ) →
    Assembly (List Enclosure × Dispatcher (Nat × Handler σ))
  | [], enclosures, dispatcher => return (enclosures, dispatcher)
  | method :: others, enclosures, dispatcher => do
    let enclosure ← Enclosure.ofMethod method.name method.limits
    let (dispatcher, added) := dispatcher.insert method.name (enclosures.length, method.handler)
    if !added then throw (.registration ("method " ++ method.name ++ " registered twice"))
    addMethods others (enclosures ++ [enclosure]) dispatcher

/-- Puts a switchboard together. -/
def assemble (methods : List (Method σ)) (limits : GlobalLimits) : Assembly (Switchboard σ) := do
  let histogram ← Assembly.durations
  let (enclosures, methods) ← addMethods methods [] .empty
  let outermost ← Enclosure.ofAll limits
  return { outermost, enclosures, methods, histogram }

/-- A switchboard with its metrics in a registry of its own. -/
def build (methods : List (Method σ)) (limits : GlobalLimits) : Except SetupError (Switchboard σ) :=
  ((assemble methods limits).run.run (Registry.empty "ledger_rpc")).1

/-- The layers around all methods. -/
def rootLayers : List Layer := [.governor 0, .gate 0]

/-- The layers around the method at a position. -/
def methodLayers (name : String) (position : Nat) : List Layer :=
  [.sample name, .governor (position + 1), .gate (position + 1)]

/-- What a call of a method passes, and its work; an unknown method is refused behind the outer layers. -/
def route (switchboard : Switchboard σ) (name : String) (params : Json) : List Layer × Work σ :=
  match switchboard.methods.find? name with
  | some (position, handler) => (rootLayers ++ methodLayers name position, handler params)
  | none => (rootLayers, .reply (.error (.methodNotFound name)))

/-- The traffic of the switchboard before any call. -/
def idleTraffic (switchboard : Switchboard σ) (surroundings : σ) : Traffic σ :=
  .idle surroundings (switchboard.outermost.gate :: switchboard.enclosures.map Enclosure.gate)
    (switchboard.outermost.governor :: switchboard.enclosures.map Enclosure.governor)

/-- The arrival of a call. -/
def arrival (switchboard : Switchboard σ) (caller name : String) (params : Json) : TrafficEvent σ :=
  let (layers, work) := switchboard.route name params
  .arrive caller layers work

end Switchboard

end LedgerService

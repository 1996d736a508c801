import LedgerService.Decimal.Binary64
import LedgerService.Metrics.Name

/-!
# The metrics registry

Gauges, counters and histograms under distinct names. A histogram has one series for each combination of label
values that was observed.
-/

namespace LedgerService

namespace Metrics

/-- The upper bounds of the histogram buckets, in thousandths; beyond the last there is one more, without a bound. -/
def boundsInThousandths : List Nat := [5, 10, 25, 50, 100, 250, 500, 1000, 2500, 5000, 10000]

/-- The upper bounds of the histogram buckets. -/
def bounds : List Binary64 := boundsInThousandths.map fun thousandths => .ofDecimal false thousandths (-3)

/-- What was observed under one combination of label values. -/
structure Series where
  /-- The values of the labels, in the order of the labels. -/
  labels : List String
  /-- For each bound the number of values not above it and above the bound before. -/
  buckets : List UInt64
  count : UInt64
  sum : Binary64
deriving Repr, Inhabited

/-- A series without observations. -/
def Series.blank (labels : List String) : Series := ⟨labels, bounds.map fun _ => 0, 0, .zero false⟩

/-- Counts a value in the first bucket that has room for it. -/
def countIn (value : Binary64) : List Binary64 → List UInt64 → List UInt64
  | bound :: bounds, count :: counts =>
    if value.atMost bound then (count + 1) :: counts else count :: countIn value bounds counts
  | _, counts => counts

/-- Takes a value into account. -/
def Series.observe (series : Series) (value : Binary64) : Series :=
  { series with
    buckets := countIn value bounds series.buckets
    count := series.count + 1
    sum := series.sum.add value }

/-- The readings of a metric. -/
inductive Readings where
  | gauge (value : Int64)
  | counter (value : UInt64)
  | histogram (labels : List String) (series : List Series)
deriving Repr, Inhabited

/-- A metric under its full name. -/
structure Family where
  name : String
  help : String
  readings : Readings
deriving Repr, Inhabited

end Metrics

open Metrics in
/-- The registered metrics, in the order of their registration. -/
structure Registry where
  /-- The first part of every full name. -/
  space : String
  families : List Family
deriving Repr, Inhabited

namespace Registry

open Metrics

/-- A registry without metrics. -/
def empty (space : String) : Registry := ⟨space, []⟩

/-- The metric with a full name. -/
def find? (registry : Registry) (name : String) : Option Family :=
  registry.families.find? fun family => family.name == name

/-- Registers a metric; gives its full name. -/
def register (registry : Registry) (subsystem name help : String) (labels : List String) (readings : Readings) :
    Except MetricFailure (Registry × String) := do
  let name := fullName registry.space subsystem name
  checkDescription name help labels
  if (registry.find? name).isSome then throw .nameTaken
  return ({ registry with families := registry.families ++ [⟨name, help, readings⟩] }, name)

/-- Registers a gauge, which starts at zero. -/
def addGauge (registry : Registry) (subsystem name help : String) : Except MetricFailure (Registry × String) :=
  registry.register subsystem name help [] (.gauge 0)

/-- Registers a counter, which starts at zero. -/
def addCounter (registry : Registry) (subsystem name help : String) :
    Except MetricFailure (Registry × String) :=
  registry.register subsystem name help [] (.counter 0)

/-- Registers a histogram without series. -/
def addHistogram (registry : Registry) (subsystem name help : String) (labels : List String) :
    Except MetricFailure (Registry × String) :=
  registry.register subsystem name help labels (.histogram labels [])

/-- Changes the readings of the metric with a full name. -/
def adjust (registry : Registry) (name : String) (change : Readings → Readings) : Registry :=
  { registry with
    families := registry.families.map fun family =>
      if family.name = name then { family with readings := change family.readings } else family }

/-- Puts a gauge at a value. -/
def set (registry : Registry) (name : String) (value : Int64) : Registry :=
  registry.adjust name fun
    | .gauge _ => .gauge value
    | other => other

/-- Raises a counter, which starts again at zero beyond its range. -/
def increase (registry : Registry) (name : String) (amount : UInt64) : Registry :=
  registry.adjust name fun
    | .counter value => .counter (value + amount)
    | other => other

/-- The series with one more value under the given label values. -/
def observeIn (labels : List String) (value : Binary64) : List Series → List Series
  | [] => [(Series.blank labels).observe value]
  | series :: others =>
    if series.labels = labels then series.observe value :: others
    else series :: observeIn labels value others

/-- Observes a value in a histogram under some label values. -/
def observe (registry : Registry) (name : String) (values : List String) (value : Binary64) :
    Except MetricFailure Registry :=
  match (registry.find? name).map Family.readings with
  | some (.histogram labels _) =>
    if labels.length ≠ values.length then .error (.labelCount labels.length values.length)
    else if labels.contains "le" then .error .reservedLabel
    else
      .ok (registry.adjust name fun
        | .histogram labels series => .histogram labels (observeIn values value series)
        | other => other)
  | _ => .ok registry

end Registry

end LedgerService

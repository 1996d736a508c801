import LedgerService.Decimal.Layout
import LedgerService.Metrics.Registry

/-!
# The text exposition of metrics

One block per metric, in the order of the names: a line with the help text, a line with the kind, and a line for
each sample. A metric without samples has no block.
-/

namespace LedgerService.Metrics

/-- One line of the exposition: a name, labels, and the text of a value. -/
structure Sample where
  name : String
  labels : List (String × String)
  value : String
deriving DecidableEq, Repr, Inhabited

/-- A help text on one line. -/
def helpText (help : String) : String :=
  String.join (help.toList.map fun character =>
    if character = '\\' then "\\\\" else if character = '\n' then "\\n" else character.toString)

/-- The value of a label between its quotes. -/
def labelText (value : String) : String :=
  String.join (value.toList.map fun character =>
    if character = '\\' then "\\\\"
    else if character = '\n' then "\\n"
    else if character = '"' then "\\\""
    else character.toString)

/-- The name of a sample followed by its labels, if it has any. -/
def Sample.title (sample : Sample) : String :=
  if sample.labels.isEmpty then sample.name
  else
    sample.name ++ "\x7b" ++
      String.intercalate "," (sample.labels.map fun (name, value) => name ++ "=\"" ++ labelText value ++ "\"") ++
      "\x7d"

/-- The line of a sample. -/
def Sample.line (sample : Sample) : String := sample.title ++ " " ++ sample.value ++ "\n"

/-- The text of a whole number, which is exact up to 53 bits. -/
def numberText (value : Int) : String := (Binary64.ofInt value).toPlain

/-- The labels with their values, in the order of the names of the labels. -/
def labelPairs (labels values : List String) : List (String × String) :=
  (labels.zip values).mergeSort fun left right => decide (left.1 ≤ right.1)

/-- The number of values up to each bound. -/
def cumulative : UInt64 → List UInt64 → List UInt64
  | _, [] => []
  | total, count :: others => (total + count) :: cumulative (total + count) others

/-- The samples of a series: those of its buckets, the sum and the count. -/
def seriesSamples (name : String) (labels : List String) (series : Series) : List Sample :=
  let pairs := labelPairs labels series.labels
  let bucket (bound : String) (count : UInt64) : Sample :=
    ⟨name ++ "_bucket", pairs ++ [("le", bound)], numberText count.toNat⟩
  ((bounds.zip (cumulative 0 series.buckets)).map fun (bound, count) => bucket bound.toPlain count) ++
    [bucket "+Inf" series.count, ⟨name ++ "_sum", pairs, series.sum.toPlain⟩,
      ⟨name ++ "_count", pairs, numberText series.count.toNat⟩]

/-- One list of texts stands before another or is equal to it. -/
def textsBefore : List String → List String → Bool
  | [], _ => true
  | _ :: _, [] => false
  | left :: lefts, right :: rights =>
    if left = right then textsBefore lefts rights else decide (left < right)

/-- The samples of a metric, its series in the order of the label values. -/
def Family.samples (family : Family) : List Sample :=
  match family.readings with
  | .gauge value => [⟨family.name, [], numberText value.toInt⟩]
  | .counter value => [⟨family.name, [], numberText value.toNat⟩]
  | .histogram labels series =>
    let sorted := series.mergeSort fun left right =>
      textsBefore ((labelPairs labels left.labels).map Prod.snd) ((labelPairs labels right.labels).map Prod.snd)
    sorted.flatMap (seriesSamples family.name labels)

/-- The name of the kind of a metric. -/
def Readings.kind : Readings → String
  | .gauge _ => "gauge"
  | .counter _ => "counter"
  | .histogram .. => "histogram"

/-- The block of a metric, empty if it has no samples. -/
def Family.block (family : Family) : String :=
  match family.samples with
  | [] => ""
  | samples =>
    "# HELP " ++ family.name ++ " " ++ helpText family.help ++ "\n# TYPE " ++ family.name ++ " " ++
      family.readings.kind ++ "\n" ++ String.join (samples.map Sample.line)

end LedgerService.Metrics

namespace LedgerService.Registry

open Metrics

/-- The metrics in the order of their names. -/
def sorted (registry : Registry) : List Family :=
  registry.families.mergeSort fun left right => decide (left.name ≤ right.name)

/-- All samples. -/
def samples (registry : Registry) : List Sample := registry.sorted.flatMap Family.samples

/-- The text of all metrics. -/
def exposition (registry : Registry) : String := String.join (registry.sorted.map Family.block)

end LedgerService.Registry

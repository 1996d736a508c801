/-!
# Names of metrics

Names of metrics and of their labels, and the reasons for which a metric is refused.
-/

namespace LedgerService

/-- A reason why a metric cannot be registered or observed. -/
inductive MetricFailure where
  | emptyHelp
  | invalidName (name : String)
  | invalidLabel (name : String)
  | repeatedLabel (name : String)
  /-- A label has the name that the bounds of histogram buckets use. -/
  | reservedLabel
  | nameTaken
  | labelCount (expected received : Nat)
deriving DecidableEq, Repr, Inhabited

/-- The wording of a metric failure. -/
def MetricFailure.message : MetricFailure → String
  | .emptyHelp => "Error: empty help string"
  | .invalidName name => "Error: '" ++ name ++ "' is not a valid metric name"
  | .invalidLabel name => "Error: '" ++ name ++ "' is not a valid label name"
  | .repeatedLabel name => "Error: duplicate variable label name " ++ name
  | .reservedLabel => "Error: \x60le\x60 is not allowed as label name in histograms"
  | .nameTaken => "Duplicate metrics collector registration attempted"
  | .labelCount expected received =>
    "Inconsistent label cardinality, expect " ++ toString expected ++ " label values, but got " ++
      toString received

namespace Metrics

/-- The full name of a metric: its parts joined by underscores, as far as they are there. -/
def fullName (space subsystem name : String) : String :=
  if name.isEmpty then ""
  else String.intercalate "_" ([space, subsystem, name].filter fun part => !part.isEmpty)

/-- A letter of the English alphabet or an underscore. -/
def isNameStart (character : Char) : Bool := character.isAlpha || character = '_'

/-- The characters form a name whose characters may also be the given extra one, and digits after the first. -/
def wellFormed (extra : Char → Bool) : List Char → Bool
  | [] => false
  | first :: others =>
    (isNameStart first || extra first) &&
      others.all fun character => isNameStart character || character.isDigit || extra character

/-- The text can name a metric. -/
def isMetricName (name : String) : Bool := wellFormed (· = ':') name.toList

/-- The text can name a label. -/
def isLabelName (name : String) : Bool := wellFormed (fun _ => false) name.toList

/-- The labels that occur before are refused, and those that are no names. -/
def checkLabels : List String → List String → Except MetricFailure Unit
  | _, [] => .ok ()
  | seen, label :: others =>
    if !isLabelName label then .error (.invalidLabel label)
    else if seen.contains label then .error (.repeatedLabel label)
    else checkLabels (label :: seen) others

/-- The checks that a description of a metric has to pass. -/
def checkDescription (name help : String) (labels : List String) : Except MetricFailure Unit :=
  if help.isEmpty then .error .emptyHelp
  else if !isMetricName name then .error (.invalidName name)
  else checkLabels [] labels

end Metrics

end LedgerService

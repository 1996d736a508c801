import LedgerService.Decimal.Numeral
import LedgerService.Settings.Setting
import LedgerService.Toml.Document
import LedgerService.Word

/-!
# Sources of settings

A TOML file, and the variables of the environment, which take precedence over it.
-/

namespace LedgerService

/-- What is known about the settings file. -/
inductive SettingsFile where
  /-- None was named. -/
  | unnamed
  /-- One was named that is not there. -/
  | missing
  | text (content : String)
deriving DecidableEq, Repr, Inhabited

/-- The beginning of the names of the variables that are settings, in lower case. -/
def variableStart : List Char := "ledger_rpc_".toList

/-- The setting that a text from the environment denotes: a truth value, an integer, a number, or the text itself. -/
def Setting.ofVariable (text : String) : Setting :=
  let lower := Text.lowerCase text
  if lower = "true" then .boolean true
  else if lower = "false" then .boolean false
  else
    match Decimal.integer? text.toList with
    | some value =>
      if Word.least64 ≤ value && value ≤ Word.most64 then .integer value
      else ((Decimal.binary64? text.toList).map .real).getD (.text text)
    | none => ((Decimal.binary64? text.toList).map .real).getD (.text text)

/-- The key of the setting that a variable names, if it names one. -/
def variableKey? (name : String) : Option String :=
  let lower := (Text.lowerCase name).toList
  if variableStart.isPrefixOf lower then some (String.ofList (lower.drop variableStart.length)) else none

/-- The settings of a file; none if they cannot be read. -/
def SettingsFile.settings? : SettingsFile → Option (List (String × Setting))
  | .unnamed => some []
  | .missing => none
  | .text content => do
    let document ← Toml.parse (String.ofList (Toml.withoutMark content.toList))
    return (Setting.ofToml document).entries

/-- The settings of the environment. -/
def variableSettings (environment : List (String × String)) : List (String × Setting) :=
  environment.filterMap fun (name, text) => (variableKey? name).map fun key => (key, .ofVariable text)

/-- The settings of both sources; none if the file cannot be read. -/
def Setting.gather? (file : SettingsFile) (environment : List (String × String)) : Option Setting := do
  let settings ← file.settings?
  return (settings ++ variableSettings environment).foldl
    (fun gathered (path, value) => gathered.assignPath path value) (.table [])

end LedgerService

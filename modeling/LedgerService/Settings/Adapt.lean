import LedgerService.Schema.Basic
import LedgerService.Settings.Setting
import LedgerService.Text.Numeral
import LedgerService.Word

/-!
# Adapting settings

A third way of reading a schema: the typed value that settings describe. Settings are converted freely between
truth values, numbers and texts, as long as the result fits.
-/

namespace LedgerService

namespace Setting

/-- The natural number nearest to a number, a half away from zero, and within 64 bits. -/
def nearestNat : Binary64 → Nat
  | .infinite false => Word.unsigned64
  | value => min Word.unsigned64 ((value.round?.getD 0).toNat)

/-- The truth value that a word stands for. -/
def wordValue? (word : String) : Option Nat :=
  let lower := Text.lowerCase word
  if lower = "true" || lower = "on" || lower = "yes" then some 1
  else if lower = "false" || lower = "off" || lower = "no" then some 0
  else none

/-- The natural number of 64 bits that a setting denotes. -/
def natural? : Setting → Option Nat
  | .boolean value => some (if value then 1 else 0)
  | .integer value => if 0 ≤ value then some value.toNat else none
  | .real value => some (nearestNat value)
  | .text word => wordValue? word <|> (Text.numeral UInt64.size word).toOption
  | _ => none

/-- The natural number below a bound that a setting denotes. -/
def naturalBelow? (bound : Nat) (setting : Setting) : Option Nat :=
  setting.natural?.filter (· < bound)

/-- The text that a setting denotes. -/
def text? : Setting → Option String
  | .boolean value => some (if value then "true" else "false")
  | .integer value => some (toString value)
  | .real value => some value.toPlain
  | .text shown => some shown
  | _ => none

/-- The name that a setting denotes: a text, or the only key of a table. -/
def name? : Setting → Option String
  | .text shown => some shown
  | .table [(key, _)] => some key
  | _ => none

/-- The one of several names that a setting denotes, whatever the case of its letters. -/
def choose? (names : List String) (setting : Setting) : Option String := do
  let name ← setting.name?
  names.find? fun other => Text.lowerCase other == Text.lowerCase name

end Setting

mutual

/-- The typed value that a setting describes. -/
def Schema.adapt : {α : Type} → Schema α → Setting → Option α
  | _, .word32, setting => (setting.naturalBelow? UInt32.size).map UInt32.ofNat
  | _, .word64, setting => (setting.naturalBelow? UInt64.size).map UInt64.ofNat
  | _, .text, setting => setting.text?
  | _, .optional inner, setting =>
    match setting with
    | .absent => some none
    | present => (inner.adapt present).map some
  | _, .choice names ofName _, setting => do ofName (← setting.choose? names)
  | _, .record _ fields build _, setting =>
    match setting with
    | .table entries => (fields.adapt entries).map build
    | _ => none
  | _, .signed64, _ => none
  | _, .boolean, _ => none
  | _, .list _, _ => none
  | _, .tagged .., _ => none

/-- The fields that the entries of a table describe; those that are not there have their defaults. -/
def Fields.adapt : {α : Type} → Fields α → List (String × Setting) → Option α
  | _, .done, _ => some ()
  | _, .field key presence schema rest, entries => do
    let value ←
      match entries.lookup key with
      | some setting => schema.adapt setting
      | none => presence.whenMissing
    return (value, ← rest.adapt entries)

end

end LedgerService

import LedgerService.Json.Printer
import LedgerService.Schema.Basic

/-!
# Writing values

The JSON value of a typed one under its schema.
-/

namespace LedgerService

mutual

/-- The JSON value of a typed value. -/
def Schema.encode : {α : Type} → Schema α → α → Json
  | _, .word32, value => .integer value.toNat
  | _, .word64, value => .integer value.toNat
  | _, .signed64, value => .integer value.toInt
  | _, .boolean, value => .boolean value
  | _, .text, value => .text value
  | _, .optional inner, value =>
    match value with
    | none => .null
    | some present => inner.encode present
  | _, .list inner, values => .array (values.map inner.encode)
  | _, .record _ fields _ split, value => .object (fields.encode (split value))
  | _, .choice _ _ toName, value => .text (toName value)
  | _, .tagged _ tag variants _ split, value => .object (variants.encode tag (split value))

/-- The members of the fields in order. -/
def Fields.encode : {α : Type} → Fields α → α → List (String × Json)
  | _, .done, _ => []
  | _, .field key presence schema rest, values =>
    if presence.omitted values.1 then rest.encode values.2
    else (key, schema.encode values.1) :: rest.encode values.2

/-- The member that names the variant, followed by the members of its fields. -/
def Variants.encode (tag : String) : {α : Type} → Variants α → α → List (String × Json)
  | _, .bare name _, .inl _ => [(tag, .text name)]
  | _, .bare _ rest, .inr value => rest.encode tag value
  | _, .fields name _ fields _, .inl values => (tag, .text name) :: fields.encode values
  | _, .fields _ _ _ rest, .inr value => rest.encode tag value

end

/-- The JSON text of a typed value. -/
def Schema.write {α : Type} (schema : Schema α) (value : α) : String := (schema.encode value).compact

end LedgerService

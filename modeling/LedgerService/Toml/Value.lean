import LedgerService.Decimal.Numeral

/-!
# TOML values

Points in time are kept as their text. The entries of a table stay in the order in which they were written.
-/

namespace LedgerService

/-- A TOML value. -/
inductive Toml where
  | text (value : String)
  | integer (value : Int)
  | real (value : Binary64)
  | boolean (value : Bool)
  /-- A date, a time of day, or both. -/
  | moment (text : String)
  | array (items : List Toml)
  | table (entries : List (String × Toml))
deriving Repr, Inhabited

end LedgerService

import LedgerService.Store.Location
import LedgerService.Store.Table

/-!
# Databases

An open database: what it holds, and whether it may be changed.
-/

namespace LedgerService

/-- An open database. -/
structure Database where
  table : LedgerTable
  readOnly : Bool
deriving Repr, Inhabited

namespace Database

/-- The fresh database at the location that a URL describes. -/
def connect (url : String) : Except Failure Database := do
  let location ← StoreLocation.connect url
  return ⟨.blank, location.readOnly⟩

/-- Creates the table unless it is there. -/
def migrate (database : Database) : Except Failure Database :=
  if database.readOnly then .error StoreLocation.unwritable
  else .ok { database with table := database.table.create }

end Database

end LedgerService

import LedgerService.Decimal.Binary64
import LedgerService.Word

/-!
# JSON values

A value keeps integers of 64 bits exactly and every other number as a binary floating-point number. The members
of an object stay in the order in which they were written, repetitions included.
-/

namespace LedgerService

/-- A JSON value. -/
inductive Json where
  | null
  | boolean (value : Bool)
  | integer (value : Int)
  | real (value : Binary64)
  | text (value : String)
  | array (items : List Json)
  | object (members : List (String × Json))
deriving Repr, Inhabited

namespace Json

/-- An integer between the least signed and the greatest unsigned one of 64 bits. -/
def fits64 (value : Int) : Bool := Word.least64 ≤ value && value ≤ Word.unsigned64

/-- A natural number as a value. -/
def ofNat (value : Nat) : Json := .integer value

/-- The text of a value, or null. -/
def ofText? : Option String → Json
  | some value => .text value
  | none => .null

/-- The member of an object with the given key; the last one if there are several. -/
def member? (key : String) : Json → Option Json
  | .object members => (members.reverse.find? fun member => member.1 == key).map (·.2)
  | _ => none

/-- Inserts a member into members sorted by key; an equal key takes the new value. -/
def insertSorted (key : String) (value : Json) : List (String × Json) → List (String × Json)
  | [] => [(key, value)]
  | (otherKey, otherValue) :: rest =>
    if key < otherKey then (key, value) :: (otherKey, otherValue) :: rest
    else if key = otherKey then (key, value) :: rest
    else (otherKey, otherValue) :: insertSorted key value rest

mutual

/-- The value with the members of every object sorted by key, of equal keys the last one alone. -/
def canonical : Json → Json
  | .array items => .array (canonicalItems items)
  | .object members => .object (canonicalMembers [] members)
  | value => value

/-- The canonical form of each item. -/
def canonicalItems : List Json → List Json
  | [] => []
  | item :: rest => canonical item :: canonicalItems rest

/-- Members added one after the other to sorted ones. -/
def canonicalMembers (sorted : List (String × Json)) : List (String × Json) → List (String × Json)
  | [] => sorted
  | (key, value) :: rest => canonicalMembers (insertSorted key (canonical value) sorted) rest

end

end Json

end LedgerService

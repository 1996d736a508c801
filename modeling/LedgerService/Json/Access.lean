import LedgerService.Json.Value

/-!
# Looking into values

The member of an object under a key, as a number, a text or a list. A member that is null counts as missing, and
a member of another kind takes the value for a missing one.
-/

namespace LedgerService.Json

/-- The member under a key, unless it is null. -/
def at? (json : Json) (key : String) : Option Json :=
  match json.member? key with
  | some .null => none
  | other => other

/-- The member under a key, null if it is missing. -/
def memberOrNull (json : Json) (key : String) : Json := (json.member? key).getD .null

/-- The integer that a value is. -/
def integer? : Json → Option Int
  | .integer value => some value
  | _ => none

/-- The text that a value is. -/
def text? : Json → Option String
  | .text value => some value
  | _ => none

/-- The items of the member under a key. -/
def itemsAt (json : Json) (key : String) : List Json :=
  match json.at? key with
  | some (.array items) => items
  | _ => []

/-- The texts among the items of the member under a key. -/
def textsAt (json : Json) (key : String) : List String := (json.itemsAt key).filterMap text?

/-- The texts among the members of the member under a key, with their own keys. -/
def textMembersAt (json : Json) (key : String) : List (String × String) :=
  match json.at? key with
  | some (.object members) => members.filterMap fun (name, value) => value.text?.map (name, ·)
  | _ => []

/-- The integer under a key. -/
def integerAt (json : Json) (key : String) (fallback : Int) : Int :=
  ((json.at? key).bind integer?).getD fallback

/-- The natural number under a key. -/
def naturalAt (json : Json) (key : String) (fallback : Nat) : Nat := (json.integerAt key fallback).toNat

/-- The unsigned number of 32 bits under a key. -/
def word32At (json : Json) (key : String) (fallback : Nat) : UInt32 := UInt32.ofNat (json.naturalAt key fallback)

/-- The unsigned number of 64 bits under a key. -/
def word64At (json : Json) (key : String) (fallback : Nat) : UInt64 := UInt64.ofNat (json.naturalAt key fallback)

/-- The signed number of 64 bits under a key, zero if it is missing. -/
def signed64At (json : Json) (key : String) : Int64 := Int64.ofInt (json.integerAt key 0)

/-- The unsigned numbers of 64 bits among the items of the member under a key. -/
def words64At (json : Json) (key : String) : List UInt64 :=
  (json.itemsAt key).filterMap fun item => item.integer?.map fun value => UInt64.ofNat value.toNat

/-- The text under a key, if there is one. -/
def textAt? (json : Json) (key : String) : Option String := (json.at? key).bind text?

/-- The text under a key. -/
def textAt (json : Json) (key fallback : String) : String := (json.textAt? key).getD fallback

/-- The member under a key is true. -/
def flagAt (json : Json) (key : String) : Bool :=
  match json.at? key with
  | some (.boolean value) => value
  | _ => false

end LedgerService.Json

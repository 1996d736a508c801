import LedgerService.Json.Fault

/-!
# Schemas

A schema describes how the values of a type are laid out in JSON. It is read in three ways: to write a value, to
decode a JSON value, and to read JSON text. A record is written as an object with one member per field; when
decoded it may also be an array of its fields in order. A tagged union is an object in which one member names the
variant.
-/

namespace LedgerService

/-- What becomes of a field that is not there. -/
structure Presence (α : Type) where
  /-- The value of the field when an object has no member for it. -/
  whenMissing : Option α
  /-- The value of the field when an array ends before it. -/
  whenShort : Option α
  /-- The values that are left out when the record is written. -/
  omitted : α → Bool

namespace Presence

/-- The field has to be there. -/
def required {α : Type} : Presence α := ⟨none, none, fun _ => false⟩

/-- The field has a default, and is always written. -/
def defaulted {α : Type} (value : α) : Presence α := ⟨some value, some value, fun _ => false⟩

/-- The field may be absent, and is left out when it is. -/
def skippable {α : Type} : Presence (Option α) := ⟨some none, some none, Option.isNone⟩

end Presence

mutual

/-- The layout of the values of a type. -/
inductive Schema : Type → Type 1 where
  | word32 : Schema UInt32
  | word64 : Schema UInt64
  | signed64 : Schema Int64
  | boolean : Schema Bool
  | text : Schema String
  | optional {α : Type} (inner : Schema α) : Schema (Option α)
  | list {α : Type} (inner : Schema α) : Schema (List α)
  /-- A record with a name, its fields, and the two ways between it and the tuple of its fields. -/
  | record {α ρ : Type} (name : String) (fields : Fields α) (build : α → ρ) (split : ρ → α) : Schema ρ
  /-- One of several names. -/
  | choice {ρ : Type} (names : List String) (ofName : String → Option ρ) (toName : ρ → String) : Schema ρ
  /-- A tagged union with a name, the key of the tag, and the two ways between it and the sum of its variants. -/
  | tagged {α ρ : Type} (name tag : String) (variants : Variants α) (build : α → ρ) (split : ρ → α) :
      Schema ρ

/-- The fields of a record, as a tuple. -/
inductive Fields : Type → Type 1 where
  | done : Fields Unit
  | field {α β : Type} (key : String) (presence : Presence α) (schema : Schema α) (rest : Fields β) :
      Fields (α × β)

/-- The variants of a tagged union, as a sum. -/
inductive Variants : Type → Type 1 where
  | done : Variants Empty
  /-- A variant without fields. -/
  | bare {β : Type} (name : String) (rest : Variants β) : Variants (Unit ⊕ β)
  /-- A variant with fields; the label is its name in messages. -/
  | fields {α β : Type} (name label : String) (fields : Fields α) (rest : Variants β) :
      Variants (α ⊕ β)

end

/-- The number of fields. -/
def Fields.count : {α : Type} → Fields α → Nat
  | _, .done => 0
  | _, .field _ _ _ rest => rest.count + 1

/-- The keys of the fields in order. -/
def Fields.keys : {α : Type} → Fields α → List String
  | _, .done => []
  | _, .field key _ _ rest => key :: rest.keys

/-- The names of the variants in order. -/
def Variants.names : {α : Type} → Variants α → List String
  | _, .done => []
  | _, .bare name rest => name :: rest.names
  | _, .fields name _ _ rest => name :: rest.names

/-- The fields read so far. -/
def Fields.Slots : {α : Type} → Fields α → Type
  | _, .done => Unit
  | _, .field (α := α) _ _ _ rest => Option α × rest.Slots

/-- No field read yet. -/
def Fields.none : {α : Type} → (fields : Fields α) → fields.Slots
  | _, .done => ()
  | _, .field _ _ _ rest => (Option.none, rest.none)

/-- The tuple of the fields read, or the first field that is missing. -/
def Fields.complete : {α : Type} → (fields : Fields α) → fields.Slots → Except Json.Fault α
  | _, .done, _ => .ok ()
  | _, .field key presence _ rest, slots =>
    match (Prod.fst slots).or presence.whenMissing with
    | Option.none => .error (.missingField key)
    | some value => (rest.complete (Prod.snd slots)).map fun others => (value, others)

namespace Schema

/-- The wanted length of a record with the given number of fields. -/
def lengthWanted (owner : String) (count : Nat) : String :=
  owner ++ " with " ++ toString count ++ (if count = 1 then " element" else " elements")

/-- What is wanted where a record stands. -/
def recordWanted (name : String) : String := "struct " ++ name

/-- What is wanted where a variant's fields stand. -/
def variantWanted (union label : String) : String := "struct variant " ++ union ++ "::" ++ label

/-- What is wanted where a tagged union stands. -/
def taggedWanted (name : String) : String := "internally tagged enum " ++ name

/-- What is wanted where the name of a variant stands. -/
def identifierWanted : String := "variant identifier"

/-- What is wanted where one of several names stands. -/
def choiceWanted : String := "string or map"

end Schema

end LedgerService

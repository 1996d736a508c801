import LedgerService.Schema.Basic
import LedgerService.Word

/-!
# Decoding values

The typed value that a JSON value describes under a schema, or the first fault met. Members of an object are
visited in their order and unknown ones are passed over; missing fields are looked for afterwards, in the order in
which the schema lists them. The fields of a tagged union are set aside until its tag is known, and are then
decoded as *buffered* values, for which some rules are laxer and some wordings differ.
-/

namespace LedgerService

open Json (Fault)

namespace Schema

/-- An integer within bounds. -/
def decodeInteger {α : Type} (wanted : String) (lower upper : Int) (ofInt : Int → α) : Json → Except Fault α
  | .integer value =>
    if lower ≤ value && value ≤ upper then .ok (ofInt value)
    else .error (.wrongValue (.integer value) wanted)
  | other => .error (.wrongType other.found wanted)

/-- One of several names, alone or as the key of an object whose only value is null. -/
def decodeChoice {α : Type} (names : List String) (ofName : String → Option α) : Json → Except Fault α
  | .text name => named name
  | .object [(name, value)] => do
    let chosen ← named name
    match value with
    | .null => .ok chosen
    | other => .error (.wrongType other.found "unit")
  | .object _ => .error (.wrongValue .map "map with a single key")
  | other => .error (.wrongType other.found choiceWanted)
where
  /-- The choice with a name. -/
  named (name : String) : Except Fault α :=
    match ofName name with
    | some chosen => .ok chosen
    | none => .error (.unknownVariant name names)

/-- The position of the variant that a tag names; a buffered tag may be the position itself. -/
def decodeTag (buffered : Bool) (names : List String) : Json → Except Fault Nat
  | .text name =>
    match names.findIdx? (· == name) with
    | some index => .ok index
    | none => .error (.unknownVariant name names)
  | .integer value =>
    if buffered && 0 ≤ value then
      if value < names.length then .ok value.toNat
      else .error (.wrongValue (.integer value) ("variant index 0 <= i < " ++ toString names.length))
    else .error (.wrongType (.integer value) identifierWanted)
  | other => .error (.wrongType other.found identifierWanted)

/-- The items left over after so many fields are none. -/
def decodeSurplus (buffered : Bool) (total taken : Nat) : Except Fault Unit :=
  if total ≤ taken then .ok ()
  else if buffered then
    .error (.wrongLength total
      (toString taken ++ (if taken = 1 then " element" else " elements") ++ " in sequence"))
  else .error (.wrongLength total "fewer elements in array")

/-- The fields of a variant: the members of an object, or the items of an array. -/
inductive Content where
  | members (members : List (String × Json))
  | items (items : List Json)

/-- The tag and the fields of a tagged union. -/
def splitTag (buffered : Bool) (name tag : String) (names : List String) : Json → Except Fault (Nat × Content)
  | .object members =>
    match members.filter fun member => member.1 == tag with
    | [] => .error (.missingField tag)
    | first :: others => do
      let index ← decodeTag buffered names first.2
      if others.isEmpty then .ok (index, .members (members.filter fun member => member.1 != tag))
      else .error (.duplicateField tag)
  | .array [] => .error (.missingField tag)
  | .array (first :: others) => do .ok (← decodeTag buffered names first, .items others)
  | other => .error (.wrongType other.found (taggedWanted name))

end Schema

mutual

/-- The typed value that a JSON value describes. -/
def Schema.decodeWith (buffered : Bool) : {α : Type} → Schema α → Json → Except Fault α
  | _, .word32, json => Schema.decodeInteger "u32" 0 Word.unsigned32 (UInt32.ofNat ∘ Int.toNat) json
  | _, .word64, json => Schema.decodeInteger "u64" 0 Word.unsigned64 (UInt64.ofNat ∘ Int.toNat) json
  | _, .signed64, json => Schema.decodeInteger "i64" Word.least64 Word.most64 Int64.ofInt json
  | _, .boolean, json =>
    match json with
    | .boolean value => .ok value
    | other => .error (.wrongType other.found "a boolean")
  | _, .text, json =>
    match json with
    | .text value => .ok value
    | other => .error (.wrongType other.found "a string")
  | _, .optional inner, json =>
    match json with
    | .null => .ok none
    | other => some <$> inner.decodeWith buffered other
  | _, .list inner, json =>
    match json with
    | .array items => items.mapM (inner.decodeWith buffered)
    | other => .error (.wrongType other.found "a sequence")
  | _, .record name fields build _, json =>
    match json with
    | .object members => do
      let slots ← members.foldlM
        (fun slots member => fields.storeWith buffered slots member.1 member.2) fields.none
      build <$> fields.complete slots
    | .array items => do
      let value ← fields.itemsWith buffered (Schema.recordWanted name) fields.count 0 items
      Schema.decodeSurplus buffered items.length fields.count
      return build value
    | other => .error (.wrongType other.found (Schema.recordWanted name))
  | _, .choice names ofName _, json => Schema.decodeChoice names ofName json
  | _, .tagged name tag variants build _, json => do
    let (index, content) ← Schema.splitTag buffered name tag variants.names json
    build <$> variants.decode name index content

/-- Decodes the value of one member into the slot of its field. -/
def Fields.storeWith (buffered : Bool) : {α : Type} → (fields : Fields α) → fields.Slots → String → Json →
    Except Fault fields.Slots
  | _, .done, slots, _, _ => .ok slots
  | _, .field key _ schema rest, slots, name, json =>
    if key = name then
      match Prod.fst slots with
      | some _ => .error (.duplicateField key)
      | none => do
        let value ← schema.decodeWith buffered json
        return (some value, Prod.snd slots)
    else do
      let others ← rest.storeWith buffered (Prod.snd slots) name json
      return (Prod.fst slots, others)

/-- Decodes the fields from the items of an array, of which so many have been taken. -/
def Fields.itemsWith (buffered : Bool) (owner : String) (count : Nat) : {α : Type} → Fields α → Nat → List Json →
    Except Fault α
  | _, .done, _, _ => .ok ()
  | _, .field _ presence schema rest, index, items => do
    let value ←
      match items.head? with
      | some item => schema.decodeWith buffered item
      | none =>
        match presence.whenShort with
        | some value => .ok value
        | none => .error (.wrongLength index (Schema.lengthWanted owner count))
    return (value, ← rest.itemsWith buffered owner count (index + 1) items.tail)

/-- The variant at a position with its fields. -/
def Variants.decode (union : String) : {α : Type} → Variants α → Nat → Schema.Content → Except Fault α
  | _, .done, _, _ => .error (.wrongType .null union)
  | _, .bare _ rest, index, content =>
    match index with
    | 0 =>
      match content with
      | .members _ => .ok (.inl ())
      | .items items => do
        Schema.decodeSurplus true items.length 0
        return .inl ()
    | next + 1 => .inr <$> rest.decode union next content
  | _, .fields _ label fields rest, index, content =>
    match index with
    | 0 =>
      match content with
      | .members members => do
        let slots ← members.foldlM
          (fun slots member => fields.storeWith true slots member.1 member.2) fields.none
        .inl <$> fields.complete slots
      | .items items => do
        let value ← fields.itemsWith true (Schema.variantWanted union label) fields.count 0 items
        Schema.decodeSurplus true items.length fields.count
        return .inl value
    | next + 1 => .inr <$> rest.decode union next content

end

/-- The typed value that a JSON value describes, or the first fault met. -/
def Schema.decode {α : Type} (schema : Schema α) (json : Json) : Except Fault α := schema.decodeWith false json

end LedgerService

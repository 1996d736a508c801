import LedgerService.Json.Reading
import LedgerService.Schema.Decode

/-!
# Reading typed text

The typed value that JSON text describes under a schema, read in one pass. A field that occurs twice is a fault, a
member that the schema does not know is skipped, and an array that is too long is a fault of the text.
-/

namespace LedgerService

open Json (Fault Reading)
open Json.Reading

namespace Schema

/-- Fails because a value of another kind is next; the scalars are read, lists and objects are not. -/
def mismatch {α : Type} (wanted : String) : Reading α := do
  match ← peekToken with
  | none => failAhead .endInValue
  | some '[' => locate (fail (.wrongType .sequence wanted))
  | some character =>
    if character = openingBrace then locate (fail (.wrongType .map wanted))
    else
      let json ← Json.Reading.value (← fuel)
      locate (fail (.wrongType json.found wanted))

/-- Reads an integer within bounds. -/
def readInteger {α : Type} (decode : Json → Except Fault α) (wanted : String) : Reading α := do
  match ← peekToken with
  | none => failAhead .endInValue
  | some character =>
    if character = '-' || character.isDigit then
      let json ← number
      match decode json with
      | .ok value => return value
      | .error fault => locate (fail fault)
    else mismatch wanted

/-- Reads true or false. -/
def readBoolean : Reading Bool := do
  match ← peekToken with
  | some 't' => bump; word "rue".toList; return true
  | some 'f' => bump; word "alse".toList; return false
  | _ => mismatch "a boolean"

/-- Reads a string. -/
def readText (wanted : String) : Reading String := do
  match ← peekToken with
  | some '"' => textToken
  | _ => mismatch wanted

/-- Reads a name and gives what it stands for. -/
def readNamed {α : Type} (names : List String) (ofName : String → Option α) (wanted : String) : Reading α := do
  let name ← readText wanted
  match ofName name with
  | some value => return value
  | none => locate (fail (.unknownVariant name names))

/-- Reads one of several names, alone or as the key of an object whose only value is null. -/
def readChoice {α : Type} (names : List String) (ofName : String → Option α) : Reading α := do
  match ← peekToken with
  | none => failAhead .endInValue
  | some '"' => readNamed names ofName identifierWanted
  | some character =>
    if character = openingBrace then
      let chosen ← delimited (do
        let chosen ← readNamed names ofName identifierWanted
        colon
        match ← peekToken with
        | some 'n' => bump; word "ull".toList
        | _ => mismatch "unit"
        return chosen) (pure ())
      match ← peekToken with
      | none => failHere .endInObject
      | some other => if other = closingBrace then bump else failHere .expectedValue
      return chosen
    else failAhead .expectedValue

/-- Reads the tag and sets the fields of a tagged union aside. -/
def readTagged (name tag : String) (names : List String) : Reading (Nat × Content) := do
  let readTag : Reading Nat := readNamed names (fun wanted => names.findIdx? (· == wanted)) identifierWanted
  match ← peekToken with
  | some '[' =>
    locate (delimited (do
      if ← moreItems true then
        let index ← readTag
        let items ← itemsWith (do Json.Reading.value (← fuel)) (← fuel) false
        return (index, .items items)
      else fail (.missingField tag)) listEnd)
  | some character =>
    if character = openingBrace then
      let member (state : Option Nat × List (String × Json)) (key : String) :
          Reading (Option Nat × List (String × Json)) := do
        if key = tag then
          match state.1 with
          | some _ => fail (.duplicateField tag)
          | none =>
            colon
            return (some (← readTag), state.2)
        else
          colon
          return (state.1, (key, ← Json.Reading.value (← fuel)) :: state.2)
      locate (delimited (do
        match ← membersWith member (← fuel) true (none, []) with
        | (some index, members) => return (index, .members members.reverse)
        | (none, _) => fail (.missingField tag)) objectEnd)
    else
      let json ← Json.Reading.value (← fuel)
      locate (fail (.wrongType json.found (taggedWanted name)))
  | none => failAhead .endInValue

end Schema

mutual

/-- Reads a typed value. -/
def Schema.read : {α : Type} → Schema α → Reading α
  | _, .word32 => Schema.readInteger Schema.word32.decode "u32"
  | _, .word64 => Schema.readInteger Schema.word64.decode "u64"
  | _, .signed64 => Schema.readInteger Schema.signed64.decode "i64"
  | _, .boolean => Schema.readBoolean
  | _, .text => Schema.readText "a string"
  | _, .optional inner => do
    match ← peekToken with
    | some 'n' => bump; word "ull".toList; return none
    | _ => return some (← inner.read)
  | _, .list inner => do
    match ← peekToken with
    | some '[' => locate (delimited (do Json.Reading.itemsWith inner.read (← fuel) true) listEnd)
    | _ => Schema.mismatch "a sequence"
  | _, .record name fields build _ => do
    match ← peekToken with
    | some '[' =>
      locate (delimited (do
        return build (← fields.readItems (Schema.recordWanted name) fields.count 0)) listEnd)
    | some character =>
      if character = openingBrace then
        locate (delimited (do
          let slots ← membersWith (fun slots key => fields.readMember slots key) (← fuel) true fields.none
          match fields.complete slots with
          | .ok value => return build value
          | .error fault => fail fault) objectEnd)
      else Schema.mismatch (Schema.recordWanted name)
    | none => failAhead .endInValue
  | _, .choice names ofName _ => Schema.readChoice names ofName
  | _, .tagged name tag variants build _ => do
    let (index, content) ← Schema.readTagged name tag variants.names
    match variants.decode name index content with
    | .ok value => return build value
    | .error fault => fail fault

/-- Reads the value of one member into the slot of its field; the value of an unknown member is skipped. -/
def Fields.readMember : {α : Type} → (fields : Fields α) → fields.Slots → String → Reading fields.Slots
  | _, .done, slots, _ => do
    colon
    skipValue (← fuel)
    return slots
  | _, .field key _ schema rest, slots, name =>
    if key = name then
      match Prod.fst slots with
      | some _ => fail (.duplicateField key)
      | none => do
        colon
        return (some (← schema.read), Prod.snd slots)
    else do
      return (Prod.fst slots, ← rest.readMember (Prod.snd slots) name)

/-- Reads the fields from the items of an array, of which so many have been read. -/
def Fields.readItems (owner : String) (count : Nat) : {α : Type} → Fields α → Nat → Reading α
  | _, .done, _ => pure ()
  | _, .field _ presence schema rest, index => do
    let value ←
      if ← moreItems (index == 0) then schema.read
      else
        match presence.whenShort with
        | some value => pure value
        | none => fail (.wrongLength index (Schema.lengthWanted owner count))
    return (value, ← rest.readItems owner count (index + 1))

end

/-- The typed value that a text describes, or the first fault met and its place. -/
def Schema.parse {α : Type} (schema : Schema α) (text : String) : Except Json.DecodeError α :=
  Json.Reading.whole schema.read text

end LedgerService

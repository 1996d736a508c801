import LedgerService.Decimal.Layout
import LedgerService.Json.Value
import LedgerService.Text.Quoted

/-!
# What is wrong with a JSON document

The ways in which text fails to be JSON, and the ways in which a JSON value fails to describe a typed one, each
with its wording. A fault found while reading text also has a place.
-/

namespace LedgerService.Json

/-- A place in a text: a line counted from one, and the bytes read on it. -/
structure Place where
  line : Nat
  column : Nat
deriving DecidableEq, Repr, Inhabited

/-- A way in which text fails to be JSON. -/
inductive Malformation where
  | endInList
  | endInObject
  | endInText
  | endInValue
  | expectedColon
  | expectedListSeparator
  | expectedObjectSeparator
  | expectedWord
  | expectedValue
  | invalidEscape
  | invalidNumber
  | numberOutOfRange
  | controlCharacter
  | keyIsNoText
  | loneSurrogate
  | unfinishedSurrogate
  | trailingComma
  | trailingCharacters
  | tooDeep
deriving DecidableEq, Repr, Inhabited

/-- The wording of a malformation. -/
def Malformation.message : Malformation → String
  | .endInList => "EOF while parsing a list"
  | .endInObject => "EOF while parsing an object"
  | .endInText => "EOF while parsing a string"
  | .endInValue => "EOF while parsing a value"
  | .expectedColon => "expected `:`"
  | .expectedListSeparator => "expected `,` or `]`"
  | .expectedObjectSeparator => "expected `,` or `\x7d`"
  | .expectedWord => "expected ident"
  | .expectedValue => "expected value"
  | .invalidEscape => "invalid escape"
  | .invalidNumber => "invalid number"
  | .numberOutOfRange => "number out of range"
  | .controlCharacter => "control character (\\u0000-\\u001F) found while parsing a string"
  | .keyIsNoText => "key must be a string"
  | .loneSurrogate => "lone leading surrogate in hex escape"
  | .unfinishedSurrogate => "unexpected end of hex escape"
  | .trailingComma => "trailing comma"
  | .trailingCharacters => "trailing characters"
  | .tooDeep => "recursion limit exceeded"

/-- What stands where something else was wanted. -/
inductive Found where
  | null
  | boolean (value : Bool)
  | integer (value : Int)
  | real (value : Binary64)
  | text (value : String)
  | sequence
  | map
deriving Repr, Inhabited

/-- The wording of what was found. -/
def Found.message : Found → String
  | .null => "null"
  | .boolean value => "boolean `" ++ toString value ++ "`"
  | .integer value => "integer `" ++ toString value ++ "`"
  | .real value => "floating point `" ++ value.toMarked ++ "`"
  | .text value => "string " ++ Text.quoted value
  | .sequence => "sequence"
  | .map => "map"

/-- The kind of a value, as it is named when another kind was wanted. -/
def found : Json → Found
  | .null => .null
  | .boolean value => .boolean value
  | .integer value => .integer value
  | .real value => .real value
  | .text value => .text value
  | .array _ => .sequence
  | .object _ => .map

/-- A reason why a document does not describe a value of the wanted type. -/
inductive Fault where
  | malformed (malformation : Malformation)
  | wrongType (found : Found) (wanted : String)
  | wrongValue (found : Found) (wanted : String)
  | wrongLength (length : Nat) (wanted : String)
  | missingField (key : String)
  | duplicateField (key : String)
  | unknownVariant (name : String) (known : List String)
deriving Repr, Inhabited

/-- A name between backticks. -/
def ticked (name : String) : String := "`" ++ name ++ "`"

/-- The known names of a choice: one, one or the other, or one of several. -/
def oneOf : List String → String
  | [] => "there are no variants"
  | [name] => "expected " ++ ticked name
  | [first, second] => "expected " ++ ticked first ++ " or " ++ ticked second
  | names => "expected one of " ++ String.intercalate ", " (names.map ticked)

/-- The wording of a fault. -/
def Fault.message : Fault → String
  | .malformed malformation => malformation.message
  | .wrongType found wanted => "invalid type: " ++ found.message ++ ", expected " ++ wanted
  | .wrongValue found wanted => "invalid value: " ++ found.message ++ ", expected " ++ wanted
  | .wrongLength length wanted => "invalid length " ++ toString length ++ ", expected " ++ wanted
  | .missingField key => "missing field " ++ ticked key
  | .duplicateField key => "duplicate field " ++ ticked key
  | .unknownVariant name [] => "unknown variant " ++ ticked name ++ ", there are no variants"
  | .unknownVariant name known => "unknown variant " ++ ticked name ++ ", " ++ oneOf known

/-- A fault, and its place if it was found in text. -/
structure DecodeError where
  fault : Fault
  place : Option Place
deriving Repr, Inhabited

/-- The wording of the fault, followed by its place. -/
def DecodeError.message (error : DecodeError) : String :=
  match error.place with
  | none => error.fault.message
  | some place =>
    error.fault.message ++ " at line " ++ toString place.line ++ " column " ++ toString place.column

end LedgerService.Json

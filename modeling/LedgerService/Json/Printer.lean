import LedgerService.Decimal.Layout
import LedgerService.Json.Value
import LedgerService.Text.Quoted

/-!
# JSON text

The compact text of a value: no blanks, integers in decimal, other numbers in their shortest digits, and in
strings only quotes, backslashes and control characters escaped.
-/

namespace LedgerService.Json

/-- One character inside a JSON string. -/
def escapeCharacter (character : Char) : List Char :=
  if character = '"' then ['\\', '"']
  else if character = '\\' then ['\\', '\\']
  else if character.toNat = 8 then ['\\', 'b']
  else if character.toNat = 9 then ['\\', 't']
  else if character.toNat = 10 then ['\\', 'n']
  else if character.toNat = 12 then ['\\', 'f']
  else if character.toNat = 13 then ['\\', 'r']
  else if character.toNat < 16 then ['\\', 'u', '0', '0', '0'] ++ Nat.toDigits 16 character.toNat
  else if character.toNat < 32 then ['\\', 'u', '0', '0'] ++ Nat.toDigits 16 character.toNat
  else [character]

/-- A string between quotes. -/
def printText (value : String) : List Char :=
  '"' :: (value.toList.flatMap escapeCharacter ++ ['"'])

mutual

/-- The characters of a value's text. -/
def print : Json → List Char
  | .null => "null".toList
  | .boolean true => "true".toList
  | .boolean false => "false".toList
  | .integer value => (toString value).toList
  | .real value => value.toMarked.toList
  | .text value => printText value
  | .array items => '[' :: (printItems items ++ [']'])
  | .object members => Char.ofNat 0x7b :: (printMembers members ++ [Char.ofNat 0x7d])

/-- Items with commas between them. -/
def printItems : List Json → List Char
  | [] => []
  | [item] => print item
  | item :: rest => print item ++ ',' :: printItems rest

/-- Members with commas between them. -/
def printMembers : List (String × Json) → List Char
  | [] => []
  | [(key, value)] => printText key ++ ':' :: print value
  | (key, value) :: rest => printText key ++ ':' :: (print value ++ ',' :: printMembers rest)

end

/-- The compact text of a value. -/
def compact (value : Json) : String := String.ofList value.print

end LedgerService.Json

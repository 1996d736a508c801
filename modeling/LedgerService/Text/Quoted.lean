import LedgerService.Text.Printable

/-!
# Quoted text

The way a piece of text is shown inside a message: between double quotes, with quotes, backslashes and
characters without a visible form escaped.
-/

namespace LedgerService.Text

/-- The digits of a number in base sixteen, lower case, without leading zeros. -/
def hexadecimal (number : Nat) : String :=
  String.ofList (Nat.toDigits 16 number)

/-- One character as it appears between the quotes. -/
def escapeCharacter (character : Char) : String :=
  if character = '"' then "\\\""
  else if character = '\\' then "\\\\"
  else if character = '\n' then "\\n"
  else if character = '\r' then "\\r"
  else if character = '\t' then "\\t"
  else if character.toNat = 0 then "\\0"
  else if isPrintable character then character.toString
  else "\\u\x7b" ++ hexadecimal character.toNat ++ "\x7d"

/-- The text between double quotes. -/
def quoted (text : String) : String :=
  "\"" ++ String.join (text.toList.map escapeCharacter) ++ "\""

end LedgerService.Text

/-!
# Numerals

Natural numbers in decimal digits, with a bound, as people write them: a plus sign may stand in front, blanks may
not.
-/

namespace LedgerService.Text

/-- A reason why a text is no numeral. -/
inductive NumeralFault where
  | empty
  | invalidDigit
  | overflow
deriving DecidableEq, Repr, Inhabited

/-- The wording of the reason. -/
def NumeralFault.message : NumeralFault → String
  | .empty => "cannot parse integer from empty string"
  | .invalidDigit => "invalid digit found in string"
  | .overflow => "number too large to fit in target type"

/-- Reads one more digit of a number below the bound. -/
def addDigit (bound value : Nat) (character : Char) : Except NumeralFault Nat :=
  if !character.isDigit then .error .invalidDigit
  else
    let larger := value * 10 + (character.toNat - '0'.toNat)
    if larger < bound then .ok larger else .error .overflow

/-- The number below the bound that the text denotes. -/
def numeral (bound : Nat) (text : String) : Except NumeralFault Nat :=
  match text.toList with
  | [] => .error .empty
  | ['+'] => .error .invalidDigit
  | '+' :: digits => digits.foldlM (addDigit bound) 0
  | digits => digits.foldlM (addDigit bound) 0

end LedgerService.Text

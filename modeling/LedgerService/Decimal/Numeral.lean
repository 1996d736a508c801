import LedgerService.Decimal.Binary64

/-!
# Decimal numerals

Numbers as people write them: integers, and binary numbers in decimal digits with an optional point and an
optional power of ten.
-/

namespace LedgerService.Decimal

/-- The number that decimal digits denote. -/
def digitsValue (digits : List Char) : Nat :=
  digits.foldl (fun value digit => value * 10 + (digit.toNat - '0'.toNat)) 0

/-- A sign, if there is one, and what follows it; true stands for a minus. -/
def splitSign : List Char → Bool × List Char
  | '-' :: rest => (true, rest)
  | '+' :: rest => (false, rest)
  | rest => (false, rest)

/-- The digits at the front and what follows them. -/
def splitDigits (characters : List Char) : List Char × List Char := characters.span Char.isDigit

/-- The integer that a text denotes: digits after an optional sign. -/
def integer? (text : List Char) : Option Int :=
  let (negative, digits) := splitSign text
  if digits.isEmpty || !digits.all Char.isDigit then none
  else
    let magnitude : Int := digitsValue digits
    some (if negative then -magnitude else magnitude)

/-- The digits after a point, if there is one, and what follows them. -/
def splitFraction : List Char → List Char × List Char
  | '.' :: rest => splitDigits rest
  | rest => ([], rest)

/-- The power of ten that fills the rest of a numeral; zero if nothing is left. -/
def power? : List Char → Option Int
  | [] => some 0
  | mark :: rest => if mark = 'e' || mark = 'E' then integer? rest else none

/-- The number nearest to `digits * 10 ^ exponent`, also for exponents far out of range. -/
def nearest (negative : Bool) (digits : Nat) (exponent : Int) : Binary64 :=
  let size : Int := (Nat.toDigits 10 digits).length
  if digits = 0 || size + exponent < -400 then .zero negative
  else if 400 < size + exponent then .infinite negative
  else .ofDecimal negative digits exponent

/-- The special values by name, in lower case. -/
def special? (negative : Bool) (name : List Char) : Option Binary64 :=
  let lower := name.map Char.toLower
  if lower = "inf".toList || lower = "infinity".toList then some (.infinite negative)
  else if lower = "nan".toList then some .notANumber
  else none

/-- The number that a text denotes; there have to be digits before or after the point. -/
def binary64? (text : List Char) : Option Binary64 :=
  let (negative, unsigned) := splitSign text
  match special? negative unsigned with
  | some value => some value
  | none =>
    let (whole, rest) := splitDigits unsigned
    let (fraction, rest) := splitFraction rest
    if whole.isEmpty && fraction.isEmpty then none
    else
      (power? rest).map fun power =>
        nearest negative (digitsValue (whole ++ fraction)) (power - fraction.length)

end LedgerService.Decimal

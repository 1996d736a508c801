import LedgerService.Toml.Text
import LedgerService.Toml.Value
import LedgerService.Word

/-!
# Numbers of TOML

Integers of 64 bits in base ten, sixteen, eight and two, and binary floating-point numbers. Underscores may stand
between digits.
-/

namespace LedgerService.Toml

/-- Digits with single underscores between them, and what follows; the underscores are left out. -/
def digitRun (isDigit : Char → Bool) : List Char → Option (List Char × List Char)
  | [] => none
  | first :: rest => if isDigit first then some (more first rest) else none
where
  /-- The digits from one that has been read on. -/
  more (digit : Char) : List Char → List Char × List Char
    | '_' :: next :: rest =>
      if isDigit next then
        let (digits, rest) := more next rest
        (digit :: digits, rest)
      else ([digit], '_' :: next :: rest)
    | next :: rest =>
      if isDigit next then
        let (digits, rest) := more next rest
        (digit :: digits, rest)
      else ([digit], next :: rest)
    | [] => ([digit], [])

/-- The value of digits in a base. -/
def inBase (base : Nat) (digits : List Char) : Nat :=
  digits.foldl (fun value digit => value * base + (hexValue? digit).getD 0) 0

/-- A digit below the given base. -/
def isDigitOf (base : Nat) (character : Char) : Bool := (hexValue? character).any (· < base)

/-- An integer in another base than ten. -/
def basedInteger (base : Nat) (characters : List Char) : Option (Toml × List Char) := do
  let (digits, rest) ← digitRun (isDigitOf base) characters
  let value := inBase base digits
  if value ≤ Word.most64 then some (.integer value, rest) else none

/-- The whole part of a decimal number without its sign: zero, or digits of which the first is not zero. -/
def wholePart (characters : List Char) : Option (List Char × List Char) :=
  match characters with
  | '0' :: rest => some (['0'], rest)
  | _ => digitRun Char.isDigit characters

/-- A decimal integer. -/
def decimalInteger (characters : List Char) : Option (Toml × List Char) := do
  let (negative, unsigned) := Decimal.splitSign characters
  let (digits, rest) ← wholePart unsigned
  let magnitude : Int := Decimal.digitsValue digits
  let value := if negative then -magnitude else magnitude
  if Word.least64 ≤ value && value ≤ Word.most64 then some (.integer value, rest) else none

/-- The digits behind a point, if there is one. -/
def fractionPart : List Char → Option (Option (List Char) × List Char)
  | '.' :: rest => do
    let (digits, rest) ← digitRun Char.isDigit rest
    return (some digits, rest)
  | rest => some (none, rest)

/-- The power of ten, if there is one. -/
def powerPart : List Char → Option (Option Int × List Char)
  | mark :: rest =>
    if mark = 'e' || mark = 'E' then do
      let (negative, unsigned) := Decimal.splitSign rest
      let (digits, rest) ← digitRun Char.isDigit unsigned
      let magnitude : Int := Decimal.digitsValue digits
      return (some (if negative then -magnitude else magnitude), rest)
    else some (none, mark :: rest)
  | [] => some (none, [])

/-- A number with a fraction or a power of ten; it may not be too great, but may lie as far below zero as it likes. -/
def decimalReal (characters : List Char) : Option (Toml × List Char) := do
  let (negative, unsigned) := Decimal.splitSign characters
  let (whole, rest) ← wholePart unsigned
  let (fraction, rest) ← fractionPart rest
  let (power, rest) ← powerPart rest
  if fraction.isNone && power.isNone then none
  else
    let digits := fraction.getD []
    let value := Decimal.nearest negative (Decimal.digitsValue (whole ++ digits))
      (power.getD 0 - digits.length)
    if value = .infinite false then none else some (.real value, rest)

/-- A special value. -/
def specialReal (characters : List Char) : Option (Toml × List Char) :=
  let (negative, unsigned) := Decimal.splitSign characters
  match unsigned with
  | 'i' :: 'n' :: 'f' :: rest => some (.real (.infinite negative), rest)
  | 'n' :: 'a' :: 'n' :: rest => some (.real .notANumber, rest)
  | _ => none

/-- An integer in any base. -/
def anyInteger (characters : List Char) : Option (Toml × List Char) :=
  match characters with
  | '0' :: 'x' :: rest => basedInteger 16 rest
  | '0' :: 'o' :: rest => basedInteger 8 rest
  | '0' :: 'b' :: rest => basedInteger 2 rest
  | _ => decimalInteger characters

/-- A number. -/
def number? (characters : List Char) : Option (Toml × List Char) :=
  decimalReal characters <|> specialReal characters <|> anyInteger characters

end LedgerService.Toml

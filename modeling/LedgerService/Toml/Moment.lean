import LedgerService.Decimal.Numeral

/-!
# Dates and times of TOML

A date, a time of day, or both with an optional offset, checked against the calendar and written in one form.
-/

namespace LedgerService.Toml

open Decimal (digitsValue)

/-- A number of exactly so many digits within bounds. -/
def fixedNumber (count lower upper : Nat) (characters : List Char) : Option (Nat × List Char) :=
  let digits := characters.take count
  if digits.length = count && digits.all Char.isDigit then
    let value := digitsValue digits
    if lower ≤ value && value ≤ upper then some (value, characters.drop count) else none
  else none

/-- What follows the given character. -/
def behind (expected : Char) : List Char → Option (List Char)
  | character :: rest => if character = expected then some rest else none
  | [] => none

/-- A number with at least so many digits. -/
def padded (count value : Nat) : String :=
  let digits := Nat.toDigits 10 value
  String.ofList (List.replicate (count - digits.length) '0' ++ digits)

/-- The number of days of a month. -/
def monthLength (year month : Nat) : Nat :=
  if month = 2 then
    if year % 4 = 0 && (year % 100 ≠ 0 || year % 400 = 0) then 29 else 28
  else if month = 4 || month = 6 || month = 9 || month = 11 then 30
  else 31

/-- A date. -/
def date (characters : List Char) : Option (String × List Char) := do
  let (year, rest) ← fixedNumber 4 0 9999 characters
  let (month, rest) ← fixedNumber 2 1 12 (← behind '-' rest)
  let (day, rest) ← fixedNumber 2 1 (monthLength year month) (← behind '-' rest)
  return (padded 4 year ++ "-" ++ padded 2 month ++ "-" ++ padded 2 day, rest)

/-- The digits of a fraction of a second: at most nine count, and trailing zeros do not. -/
def secondFraction (digits : List Char) : String :=
  let kept := ((digits.take 9).reverse.dropWhile (· = '0')).reverse
  if kept.isEmpty then "" else "." ++ String.ofList kept

/-- A fraction of a second, if there is one. -/
def fraction : List Char → Option (String × List Char)
  | '.' :: rest =>
    let (digits, rest) := rest.span Char.isDigit
    if digits.isEmpty then none else some (secondFraction digits, rest)
  | rest => some ("", rest)

/-- A time of day. -/
def timeOfDay (characters : List Char) : Option (String × List Char) := do
  let (hour, rest) ← fixedNumber 2 0 23 characters
  let (minute, rest) ← fixedNumber 2 0 59 (← behind ':' rest)
  let (second, rest) ← fixedNumber 2 0 60 (← behind ':' rest)
  let (fraction, rest) ← fraction rest
  return (padded 2 hour ++ ":" ++ padded 2 minute ++ ":" ++ padded 2 second ++ fraction, rest)

/-- An offset from universal time, if there is one. -/
def offset (characters : List Char) : Option (String × List Char) :=
  match characters with
  | 'Z' :: rest | 'z' :: rest => some ("Z", rest)
  | sign :: rest =>
    if sign = '+' || sign = '-' then do
      let (hours, rest) ← fixedNumber 2 0 23 rest
      let (minutes, rest) ← fixedNumber 2 0 59 (← behind ':' rest)
      let shown := if hours = 0 && minutes = 0 then '+' else sign
      return (shown.toString ++ padded 2 hours ++ ":" ++ padded 2 minutes, rest)
    else some ("", characters)
  | [] => some ("", [])

/-- A time of day with an optional offset behind a date. -/
def timeBehindDate : List Char → Option (String × List Char)
  | separator :: rest =>
    if separator = 'T' || separator = 't' || separator = ' ' then do
      let (time, rest) ← timeOfDay rest
      let (offset, rest) ← offset rest
      return ("T" ++ time ++ offset, rest)
    else none
  | [] => none

/-- A date with or without a time, or a time alone. -/
def moment? (characters : List Char) : Option (String × List Char) :=
  match date characters with
  | some (date, rest) =>
    match timeBehindDate rest with
    | some (time, rest) => some (date ++ time, rest)
    | none => some (date, rest)
  | none => timeOfDay characters

end LedgerService.Toml

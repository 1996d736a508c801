import LedgerService.Decimal.Shortest

/-!
# Decimal layouts

Two ways of writing a binary number in its shortest decimal digits: always positional, and positional within a
range of magnitudes with powers of ten outside it.
-/

namespace LedgerService.Binary64

open Decimal

/-- The digits of a decimal, and where its point stands counted from the first digit. -/
def layoutParts (significand : Nat) (exponent : Int) : List Char × Int :=
  if significand = 0 then (['0'], 1)
  else
    let decimal := shortest significand exponent
    let digits := Nat.toDigits 10 decimal.digits
    (digits, digits.length + decimal.exponent)

/-- Digits with a point after the first `point` of them; `whole` is what follows a number without a fraction. -/
def positional (digits : List Char) (point : Int) (whole : String) : String :=
  if point ≤ 0 then
    "0." ++ String.ofList (List.replicate (-point).toNat '0' ++ digits)
  else
    let places := point.toNat
    if digits.length ≤ places then
      String.ofList (digits ++ List.replicate (places - digits.length) '0') ++ whole
    else String.ofList (digits.take places) ++ "." ++ String.ofList (digits.drop places)

/-- One digit, a point before any others, and the power of ten, always with its sign. -/
def scientific (digits : List Char) (point : Int) : String :=
  let power := point - 1
  let mantissa := match digits with
    | [] => ""
    | [digit] => digit.toString
    | digit :: others => digit.toString ++ "." ++ String.ofList others
  mantissa ++ (if power < 0 then "e-" else "e+") ++ toString power.natAbs

/-- Positional, however long, and without a point when there is no fraction. -/
def toPlain : Binary64 → String
  | .finite negative significand exponent =>
    let (digits, point) := layoutParts significand exponent
    (if negative then "-" else "") ++ positional digits point ""
  | .infinite negative => if negative then "-inf" else "inf"
  | .notANumber => "NaN"

/-- Positional from `1e-5` up to sixteen whole digits and always with a point; otherwise with a power of ten. -/
def toMarked : Binary64 → String
  | .finite negative significand exponent =>
    let (digits, point) := layoutParts significand exponent
    let body :=
      if -5 < point && point ≤ 16 then positional digits point ".0" else scientific digits point
    (if negative then "-" else "") ++ body
  | .infinite negative => if negative then "-inf" else "inf"
  | .notANumber => "NaN"

end LedgerService.Binary64

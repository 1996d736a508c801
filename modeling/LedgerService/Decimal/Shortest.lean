import LedgerService.Decimal.Binary64

/-!
# Shortest decimals

The decimal with the fewest digits that reads back as a given binary number; of several with that many digits
the one nearest to the number.
-/

namespace LedgerService.Decimal

/-- The positive decimal `digits * 10 ^ exponent`. -/
structure Digits where
  digits : Nat
  exponent : Int
deriving DecidableEq, Repr, Inhabited

/-- The number of decimal digits. -/
def digitCount (number : Nat) : Nat := (Nat.toDigits 10 number).length

/--
The interval of reals that round to `significand * 2 ^ exponent`, its ends and its middle as numerators over one
denominator.
-/
structure Interval where
  lower : Nat
  middle : Nat
  upper : Nat
  denominator : Nat
  /-- The ends themselves round to the number. -/
  closed : Bool

/-- The interval of a positive number; the gap below a power of two is half the gap above it. -/
def Interval.of (significand : Nat) (exponent : Int) : Interval :=
  let narrow := significand = 1 <<< 52 && Binary64.leastExponent < exponent
  let below := 4 * significand - (if narrow then 1 else 2)
  let (scale, denominator) := Binary64.magnitude 1 (exponent - 2)
  { lower := below * scale
    middle := 4 * significand * scale
    upper := (4 * significand + 2) * scale
    denominator
    closed := significand % 2 = 0 }

/-- The fraction `value / unit` lies in the interval, where the unit divides the interval's numerators. -/
def Interval.contains (interval : Interval) (value unit : Nat) : Bool :=
  if interval.closed then
    interval.lower * unit ≤ value * interval.denominator &&
      value * interval.denominator ≤ interval.upper * unit
  else
    interval.lower * unit < value * interval.denominator &&
      value * interval.denominator < interval.upper * unit

/-- The decimal with the given exponent that lies in the interval and is nearest to its middle. -/
def Interval.nearest? (interval : Interval) (exponent : Int) : Option Nat :=
  let (weight, unit) : Nat × Nat :=
    match exponent with
    | .ofNat power => (Nat.pow 10 power, 1)
    | .negSucc power => (1, Nat.pow 10 (power + 1))
  let floor := interval.middle * unit / (interval.denominator * weight)
  let rest := interval.middle * unit - floor * (interval.denominator * weight)
  let low := interval.contains (floor * weight) unit && 0 < floor
  let high := interval.contains ((floor + 1) * weight) unit
  let upward := interval.denominator * weight < 2 * rest ||
    (interval.denominator * weight = 2 * rest && floor % 2 = 1)
  if low && high then some (if upward then floor + 1 else floor)
  else if low then some floor
  else if high then some (floor + 1)
  else none

/-- The first hit on the grids of one, two, … digits, starting from the coarsest grid. -/
def Interval.search (interval : Interval) (exponent : Int) : Nat → Digits
  | 0 => ⟨0, 0⟩
  | fuel + 1 =>
    match interval.nearest? exponent with
    | some digits => ⟨digits, exponent⟩
    | none => interval.search (exponent - 1) fuel

/-- Trailing zeros moved into the exponent. -/
def Digits.trim (decimal : Digits) : Nat → Digits
  | 0 => decimal
  | fuel + 1 =>
    if decimal.digits ≠ 0 && decimal.digits % 10 = 0 then
      (⟨decimal.digits / 10, decimal.exponent + 1⟩ : Digits).trim fuel
    else decimal

/-- The shortest decimal of a positive number. -/
def shortest (significand : Nat) (exponent : Int) : Digits :=
  let (numerator, denominator) := Binary64.magnitude significand exponent
  let leading : Int := (digitCount numerator : Int) - (digitCount denominator : Int)
  ((Interval.of significand exponent).search (leading + 1) 24).trim 20

end LedgerService.Decimal

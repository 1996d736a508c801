/-!
# Binary floating-point numbers of 64 bits

A number with 53 significant bits is kept as an exact sign, significand and power of two. Every operation is
computed on exact rational numbers first and rounded once, to the nearest such number and to the one with an
even significand when two are equally near.
-/

namespace LedgerService

/-- A number with 53 significant bits and exponents from -1074 to 971, or one of the special values. -/
inductive Binary64 where
  /-- The number `significand * 2 ^ exponent`, with its sign. -/
  | finite (negative : Bool) (significand : Nat) (exponent : Int)
  | infinite (negative : Bool)
  | notANumber
deriving DecidableEq, Repr, Inhabited

namespace Binary64

/-- The least exponent; numbers below `2 ^ 52` times its power lose significant bits. -/
def leastExponent : Int := -1074

/-- The greatest exponent. -/
def greatestExponent : Int := 971

/-- Zero with a sign. -/
def zero (negative : Bool) : Binary64 := .finite negative 0 leastExponent

/-- The fraction `numerator / (denominator * 2 ^ exponent)`, as a numerator and a denominator. -/
def scaleDown (numerator denominator : Nat) (exponent : Int) : Nat × Nat :=
  match exponent with
  | .ofNat power => (numerator, denominator <<< power)
  | .negSucc power => (numerator <<< (power + 1), denominator)

/-- The quotient rounded to the nearest natural number, a half to the even one. -/
def roundQuotient (numerator denominator : Nat) : Nat :=
  let quotient := numerator / denominator
  let rest := numerator % denominator
  if 2 * rest < denominator then quotient
  else if denominator < 2 * rest then quotient + 1
  else if quotient % 2 = 0 then quotient
  else quotient + 1

/-- The exponent at which the significand of a positive fraction has 53 bits, not below the least one. -/
def exponentOf (numerator denominator : Nat) : Int :=
  let guess : Int := (numerator.log2 : Int) - (denominator.log2 : Int) - 52
  let (scaled, divisor) := scaleDown numerator denominator guess
  max leastExponent (if scaled / divisor < 1 <<< 52 then guess - 1 else guess)

/-- The number nearest to a fraction. -/
def ofRatio (negative : Bool) (numerator denominator : Nat) : Binary64 :=
  if numerator = 0 then zero negative
  else
    let exponent := exponentOf numerator denominator
    let (scaled, divisor) := scaleDown numerator denominator exponent
    let significand := roundQuotient scaled divisor
    let (significand, exponent) :=
      if significand = 1 <<< 53 then (1 <<< 52, exponent + 1) else (significand, exponent)
    if greatestExponent < exponent then .infinite negative
    else .finite negative significand exponent

/-- The number nearest to a natural number. -/
def ofNat (number : Nat) : Binary64 := ofRatio false number 1

/-- The number nearest to an integer. -/
def ofInt (number : Int) : Binary64 := ofRatio (number < 0) number.natAbs 1

/-- The number nearest to `digits * 10 ^ exponent`. -/
def ofDecimal (negative : Bool) (digits : Nat) (exponent : Int) : Binary64 :=
  match exponent with
  | .ofNat power => ofRatio negative (digits * Nat.pow 10 power) 1
  | .negSucc power => ofRatio negative digits (Nat.pow 10 (power + 1))

/-- The magnitude `significand * 2 ^ exponent` as an exact fraction. -/
def magnitude (significand : Nat) (exponent : Int) : Nat × Nat :=
  match exponent with
  | .ofNat power => (significand <<< power, 1)
  | .negSucc power => (significand, 1 <<< (power + 1))

/-- The number with the other sign. -/
def neg : Binary64 → Binary64
  | .finite negative significand exponent => .finite (!negative) significand exponent
  | .infinite negative => .infinite (!negative)
  | .notANumber => .notANumber

/-- The product, rounded. -/
def mul : Binary64 → Binary64 → Binary64
  | .finite leftSign left leftExponent, .finite rightSign right rightExponent =>
    let (numerator, denominator) := magnitude (left * right) (leftExponent + rightExponent)
    ofRatio (leftSign != rightSign) numerator denominator
  | .infinite leftSign, .infinite rightSign => .infinite (leftSign != rightSign)
  | .infinite leftSign, .finite rightSign right _ =>
    if right = 0 then .notANumber else .infinite (leftSign != rightSign)
  | .finite leftSign left _, .infinite rightSign =>
    if left = 0 then .notANumber else .infinite (leftSign != rightSign)
  | _, _ => .notANumber

/-- The quotient of a number by a positive integer, rounded; the divisor is rounded beforehand. -/
def divNat (left : Binary64) (divisor : Nat) : Binary64 :=
  match left, ofNat divisor with
  | .finite sign significand exponent, .finite _ scale scaleExponent =>
    if scale = 0 then (if significand = 0 then .notANumber else .infinite sign)
    else
      let (numerator, denominator) := magnitude significand (exponent - scaleExponent)
      ofRatio sign numerator (denominator * scale)
  | .finite sign _ _, .infinite _ => zero sign
  | .infinite sign, .finite _ _ _ => .infinite sign
  | _, _ => .notANumber

/-- A finite number as an integer count of units `2 ^ unit`, for a unit not above its exponent. -/
def units (negative : Bool) (significand : Nat) (exponent unit : Int) : Int :=
  let count : Int := (significand <<< (exponent - unit).toNat : Nat)
  if negative then -count else count

/-- The sum, rounded; opposite numbers give positive zero. -/
def add : Binary64 → Binary64 → Binary64
  | .finite leftSign left leftExponent, .finite rightSign right rightExponent =>
    let unit := min leftExponent rightExponent
    let total := units leftSign left leftExponent unit + units rightSign right rightExponent unit
    if total = 0 then zero (leftSign && rightSign)
    else
      let (numerator, denominator) := magnitude total.natAbs unit
      ofRatio (total < 0) numerator denominator
  | .infinite leftSign, .infinite rightSign =>
    if leftSign = rightSign then .infinite leftSign else .notANumber
  | .infinite sign, .finite _ _ _ => .infinite sign
  | .finite _ _ _, .infinite sign => .infinite sign
  | _, _ => .notANumber

/-- The first number is at most the second; false when one of them is not a number. -/
def atMost : Binary64 → Binary64 → Bool
  | .finite leftSign left leftExponent, .finite rightSign right rightExponent =>
    let unit := min leftExponent rightExponent
    units leftSign left leftExponent unit ≤ units rightSign right rightExponent unit
  | .finite _ _ _, .infinite rightSign => !rightSign
  | .infinite leftSign, .finite _ _ _ => leftSign
  | .infinite leftSign, .infinite rightSign => leftSign || !rightSign
  | _, _ => false

/-- The nearest integer, a half away from zero; none for the special values. -/
def round? : Binary64 → Option Int
  | .finite negative significand exponent =>
    let (numerator, denominator) := magnitude significand exponent
    let rounded : Int := ((2 * numerator + denominator) / (2 * denominator) : Nat)
    some (if negative then -rounded else rounded)
  | _ => none

end Binary64

end LedgerService

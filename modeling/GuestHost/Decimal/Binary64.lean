import GuestHost.Bytes

/-!
# Binary numbers of 64 bits

A number of 64 bits is not a number, or infinite, or finite: a sign and a
significand times a power of two.  `ofRatio` gives the finite number nearest to a
fraction, `ofDecimal` the one nearest to a decimal, and `toIntWithin` the integer
nearest to a number.  All of it is exact arithmetic on natural numbers,
with `Nat.pow` for the powers.
-/

namespace GuestHost

/-- A binary number of 64 bits.  A finite one stands for `significand * 2 ^ exponent`
with its sign; the sign is kept where the significand is zero. -/
inductive Binary64 where
  | nan
  | infinite (negative : Bool)
  | finite (negative : Bool) (significand : Nat) (exponent : Int)
  deriving DecidableEq, Repr

namespace Binary64

/-- The exponent of the finest finite numbers. -/
def leastExponent : Int := -1074

/-- The exponent of the coarsest finite numbers. -/
def greatestExponent : Int := 971

/-- The number of binary digits of a significand. -/
def precision : Nat := 53

/-! ## From a fraction -/

/-- The integer nearest to `numerator / denominator`; of two equally near ones the
even one. -/
def divideToEven (numerator denominator : Nat) : Nat :=
  let quotient := numerator / denominator
  let twice := 2 * (numerator % denominator)
  if twice < denominator then quotient
  else if twice = denominator ∧ quotient % 2 = 0 then quotient
  else quotient + 1

/-- The integer nearest to `numerator / denominator / 2 ^ exponent`. -/
def significandAt (exponent : Int) (numerator denominator : Nat) : Nat :=
  divideToEven (numerator * Nat.pow 2 (-exponent).toNat) (denominator * Nat.pow 2 exponent.toNat)

/-- The power of two that a fraction reaches: the greatest `n` with
`2 ^ n ≤ numerator / denominator`. -/
def binaryMagnitude (numerator denominator : Nat) : Int :=
  let estimate := (numerator.log2 : Int) - denominator.log2
  if denominator * Nat.pow 2 estimate.toNat ≤ numerator * Nat.pow 2 (-estimate).toNat then estimate
  else estimate - 1

/-- The number of 64 bits nearest to `numerator / denominator`; of two equally near
ones the one with the even significand.  What rounds beyond the coarsest finite
numbers is infinite. -/
def ofRatio (negative : Bool) (numerator denominator : Nat) : Binary64 :=
  if numerator = 0 then .finite negative 0 leastExponent
  else
    let exponent := max leastExponent (binaryMagnitude numerator denominator + 1 - precision)
    let significand := significandAt exponent numerator denominator
    let (significand, exponent) :=
      if significand = Nat.pow 2 precision then (Nat.pow 2 (precision - 1), exponent + 1)
      else (significand, exponent)
    if greatestExponent < exponent then .infinite negative
    else .finite negative significand exponent

/-- The number of 64 bits nearest to `digits * 10 ^ scale`.  A decimal of more than
310 places before the point is beyond the finite numbers, and one that begins more
than 330 places behind it is nearest to zero, so that no power larger than these is
ever computed. -/
def ofDecimal (negative : Bool) (digits : Nat) (scale : Int) : Binary64 :=
  let places := ((Nat.toDigits 10 digits).length : Int) + scale
  if digits = 0 ∨ places < -330 then ofRatio negative 0 1
  else if 310 < places then .infinite negative
  else ofRatio negative (digits * Nat.pow 10 scale.toNat) (Nat.pow 10 (-scale).toNat)

/-! ## To an integer -/

/-- The integer nearest to `significand * 2 ^ exponent`, the greater one of two
equally near ones. -/
def nearestNat (significand : Nat) (exponent : Int) : Nat :=
  if 0 ≤ exponent then significand * Nat.pow 2 exponent.toNat
  else
    let unit := Nat.pow 2 (-exponent).toNat
    (2 * significand + unit) / (2 * unit)

/-- The integer nearest to a number, a half going away from zero, brought between two
bounds; zero for what is not a number. -/
def toIntWithin (low high : Int) : Binary64 → Int
  | .nan => 0
  | .infinite negative => if negative then low else high
  | .finite negative significand exponent =>
    let magnitude : Int := nearestNat significand exponent
    max low (min high (if negative then -magnitude else magnitude))

end Binary64

end GuestHost

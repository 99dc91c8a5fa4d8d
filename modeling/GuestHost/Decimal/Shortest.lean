import GuestHost.Decimal.Binary64

/-!
# The shortest decimal of a binary number

A binary number is written with the fewest digits that still read back as that
number.  The reals that read back are those between the two midpoints to its
neighbours; a grid of decimals is the multiples of a power of ten.  The coarsest
grid with a point between the midpoints gives the fewest digits, and of its two
points next to the number the nearer one is taken, the greater one if both are
equally near.  `Binary64.toText` lays the digits out around the point, never with
an exponent and never with a fraction of zero.
-/

namespace GuestHost

namespace Binary64

/-- The multiple of `10 ^ scale` that `significand * 2 ^ exponent` is written with, if
one of them reads back as it.  Lengths are measured in quarters of the last binary
place: the midpoint above is two quarters away, the one below as well, or only one
quarter where the neighbour below has a finer last place.  A midpoint itself reads
back if the significand is even. -/
def onGrid? (significand : Nat) (exponent scale : Int) : Option Nat :=
  let quarter := exponent - 2
  let measure (quarters : Nat) : Nat :=
    quarters * Nat.pow 2 quarter.toNat * Nat.pow 10 (-scale).toNat
  let unit := Nat.pow 10 scale.toNat * Nat.pow 2 (-quarter).toNat
  let narrow := significand = Nat.pow 2 (precision - 1) ∧ leastExponent < exponent
  let low := measure (4 * significand - if narrow then 1 else 2)
  let high := measure (4 * significand + 2)
  let value := measure (4 * significand)
  let readsBack (multiple : Nat) : Bool :=
    if significand % 2 = 0 then low ≤ multiple * unit ∧ multiple * unit ≤ high
    else low < multiple * unit ∧ multiple * unit < high
  let below := value / unit
  let above := below + 1
  match readsBack below, readsBack above with
  | true, true =>
    if value - below * unit < above * unit - value then some below else some above
  | true, false => some below
  | false, true => some above
  | false, false => none

/-- The scales of the grids, from the coarsest to the finest that is ever needed. -/
def scales : List Int :=
  (List.range 633).map fun (step : Nat) => 308 - (step : Int)

/-- The digits and the scale that a finite number other than zero is written with. -/
def shortest (significand : Nat) (exponent : Int) : Nat × Int :=
  (scales.findSome? fun scale =>
    (onGrid? significand exponent scale).map fun digits => (digits, scale)).getD (0, 0)

/-- Digits around a point that stands `scale` places to their right. -/
def layout (digits : List Char) (scale : Int) : List Char :=
  if 0 ≤ scale then digits ++ List.replicate scale.toNat '0'
  else
    let places := (-scale).toNat
    if places < digits.length then
      digits.take (digits.length - places) ++ '.' :: digits.drop (digits.length - places)
    else '0' :: '.' :: (List.replicate (places - digits.length) '0' ++ digits)

/-- A number as text. -/
def toText : Binary64 → String
  | .nan => "NaN"
  | .infinite negative => if negative then "-inf" else "inf"
  | .finite negative significand exponent =>
    let magnitude :=
      if significand = 0 then ['0']
      else
        let (digits, scale) := shortest significand exponent
        layout (Nat.toDigits 10 digits) scale
    String.ofList (if negative then '-' :: magnitude else magnitude)

end Binary64

end GuestHost

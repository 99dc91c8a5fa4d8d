import GuestHost.Decimal.Binary64

/-!
# Whole numbers as binary numbers

A significand has 53 binary digits, so of a whole number that has 64 of them the last eleven go.
What is left counts multiples of 2¹¹, and the number comes to the nearest one of these.  If
there are 2⁵³ of them, the significand is halved and the exponent goes up by one, which leaves
the number as it is.

`divideToEven_nearest` says in what sense the nearest multiple is counted, and
`toIntWithin_of_large` what such a number is worth where an integer is wanted.
-/

namespace GuestHost.Binary64

/-- From 2⁶³ up to 2⁶⁴ a number reaches the 63rd power of two. -/
theorem binaryMagnitude_of_large {n : Nat} (hlow : 2 ^ 63 ≤ n) (hhigh : n < 2 ^ 64) :
    binaryMagnitude n 1 = 63 := by
  have hlog : n.log2 = 63 := (Nat.log2_eq_iff (by omega)).mpr ⟨hlow, hhigh⟩
  have hone : Nat.log2 1 = 0 := by decide
  have hreached : 1 * Nat.pow 2 (63 : Int).toNat ≤ n * Nat.pow 2 (-63 : Int).toNat := by
    change 1 * 2 ^ 63 ≤ n * 1
    omega
  simp only [binaryMagnitude, hlog, hone]
  exact if_pos hreached

theorem ofRatio_of_large {n : Nat} (hlow : 2 ^ 63 ≤ n) (hhigh : n < 2 ^ 64) :
    ofRatio false n 1 =
      if divideToEven n (2 ^ 11) = 2 ^ 53 then .finite false (2 ^ 52) 12
      else .finite false (divideToEven n (2 ^ 11)) 11 := by
  have hexponent : max leastExponent (63 + 1 - (precision : Int)) = 11 := by decide
  have hsignificand : significandAt 11 n 1 = divideToEven n (2 ^ 11) := by
    change divideToEven (n * 1) (1 * 2 ^ 11) = _
    rw [Nat.mul_one, Nat.one_mul]
  rw [ofRatio, if_neg (by omega), binaryMagnitude_of_large hlow hhigh]
  simp only [hexponent, hsignificand]
  by_cases hcarry : divideToEven n (2 ^ 11) = 2 ^ 53
  · -- the definition writes the powers of two in another way
    have hcarry' : divideToEven n (2 ^ 11) = Nat.pow 2 precision := hcarry
    rw [if_pos hcarry, if_pos hcarry']
    rfl
  · have hcarry' : ¬ divideToEven n (2 ^ 11) = Nat.pow 2 precision := hcarry
    rw [if_neg hcarry, if_neg hcarry']
    rfl

theorem ofDecimal_of_large {n : Nat} (hlow : 2 ^ 63 ≤ n) (hhigh : n < 2 ^ 64) :
    ofDecimal false n 0 = ofRatio false n 1 := by
  have hplaces : (Nat.toDigits 10 n).length ≤ 20 :=
    (Nat.length_toDigits_le_iff (by decide) (by decide)).mpr (by omega)
  rw [ofDecimal, if_neg (by omega), if_neg (by omega)]
  change ofRatio false (n * 1) 1 = _
  rw [Nat.mul_one]

/-- A whole number up there comes to the nearest multiple of 2¹¹. -/
theorem toIntWithin_of_large {n : Nat} (hlow : 2 ^ 63 ≤ n) (hhigh : n < 2 ^ 64) (low high : Int) :
    (ofDecimal false n 0).toIntWithin low high =
      max low (min high (divideToEven n (2 ^ 11) * 2 ^ 11 : Nat)) := by
  rw [ofDecimal_of_large hlow hhigh, ofRatio_of_large hlow hhigh]
  split
  · next hcarry =>
    rw [hcarry]
    rfl
  · rfl

end GuestHost.Binary64

import GuestHost.Frame

/-!
# Counts and words

A count is written as a signed word and read back from it; the word of a count is
its only one (`Word.ofCount?_of_toCount?`, `Word.toCount?_of_ofCount?`).  So the header of a
frame is the length that was asked for, byte by byte, whenever that length was given as a word
(`Frame.header_of_toCount?`).

A word in memory has no sign.  Read as a signed word it is a count exactly where it
is below 2³¹, and then it is the count that it was before (`Word.toCount?_toInt32`).

Counts are added as words as long as the sum is one: `Word.add?_eq_none_iff` says when it is
not.
-/

namespace GuestHost

namespace Word

variable {word : Int32} {count : Nat}

theorem toCount?_eq_some_iff : toCount? word = some count ↔ word.toInt = count := by
  unfold toCount?
  split
  · rw [Option.some.injEq]
    omega
  · next hnegative =>
      constructor
      · nofun
      · intro hcount
        omega

theorem toCount?_eq_none_iff : toCount? word = none ↔ word.toInt < 0 := by
  unfold toCount?
  split
  · next hnonneg => simpa using hnonneg
  · next hnegative => simpa using hnegative

theorem toCount?_of_nonneg (hnonneg : 0 ≤ word.toInt) : toCount? word = some word.toInt.toNat :=
  if_pos hnonneg

theorem toCount?_ofNat (hsmall : count < 2 ^ 31) : toCount? (Int32.ofNat count) = some count :=
  toCount?_eq_some_iff.mpr (Int32.toInt_ofNat_of_lt hsmall)

/-- A count that is read from a word is written as that word. -/
theorem ofCount?_of_toCount? (hcount : toCount? word = some count) :
    ofCount? count = some word := by
  have hlt := word.toInt_lt
  unfold toCount? at hcount
  split at hcount
  · next hnonneg =>
      cases hcount
      have hsmall : word.toInt.toNat < 2 ^ 31 := by omega
      rw [ofCount?, if_pos hsmall]
      congr 1
      apply Int32.toInt.inj
      rw [Int32.toInt_ofNat_of_lt hsmall]
      omega
  · cases hcount

/-- A count that is written as a word is read from it. -/
theorem toCount?_of_ofCount? (hword : ofCount? count = some word) :
    toCount? word = some count := by
  unfold ofCount? at hword
  split at hword
  · next hsmall =>
      rw [← Option.some.inj hword]
      exact toCount?_ofNat hsmall
  · cases hword

theorem toInt_clamp (hsmall : count < 2 ^ 31) : (clamp count).toInt = count := by
  rw [clamp, ofCount?, if_pos hsmall]
  exact Int32.toInt_ofNat_of_lt hsmall

/-- The largest word stands for every count that is beyond it. -/
theorem toInt_clamp_eq (count : Nat) : (clamp count).toInt = min count (2 ^ 31 - 1) := by
  by_cases hsmall : count < 2 ^ 31
  · rw [toInt_clamp hsmall]
    omega
  · have hmax : clamp count = Int32.maxValue := by
      rw [clamp, ofCount?, if_neg hsmall, Option.getD_none]
    rw [hmax, show Int32.maxValue.toInt = 2 ^ 31 - 1 from rfl]
    omega

theorem ne_zero_of_toCount? (hcount : toCount? word = some count) (hpositive : 0 < count) :
    word ≠ 0 := by
  rintro rfl
  have hzero : 0 = count := Option.some.inj hcount
  omega

/-- Half of the words without a sign are counts when they are read with one. -/
theorem toCount?_toInt32 (word : UInt32) :
    toCount? word.toInt32 = if word.toNat < 2 ^ 31 then some word.toNat else none := by
  have hlt := word.toNat_lt
  have hvalue : word.toInt32.toInt =
      if 2 * word.toNat < 2 ^ 32 then (word.toNat : Int) else word.toNat - (2 ^ 32 : Nat) :=
    BitVec.toInt_eq_toNat_cond word.toBitVec
  split
  · next hsmall =>
      rw [if_pos (by omega)] at hvalue
      exact toCount?_eq_some_iff.mpr hvalue
  · next hlarge =>
      rw [if_neg (by omega)] at hvalue
      exact toCount?_eq_none_iff.mpr (by omega)

/-- A sum with a count that stays within the signed words. -/
theorem add?_of_toCount? {more : Nat} (hcount : toCount? word = some count)
    (hsum : count + more < 2 ^ 31) :
    add? word (Int32.ofNat more) = some (Int32.ofNat (count + more)) := by
  have hword := toCount?_eq_some_iff.mp hcount
  have hmore : (Int32.ofNat more).toInt = more := Int32.toInt_ofNat_of_lt (by omega)
  -- the smallest and the largest word are spelled out for the arithmetic
  have hbounds : Int32.minValue.toInt ≤ ((count + more : Nat) : Int) ∧
      ((count + more : Nat) : Int) ≤ Int32.maxValue.toInt := by
    rw [show Int32.minValue.toInt = -2 ^ 31 from rfl,
      show Int32.maxValue.toInt = 2 ^ 31 - 1 from rfl]
    omega
  have htotal : word.toInt + (Int32.ofNat more).toInt = ((count + more : Nat) : Int) := by
    rw [hword, hmore, Int.natCast_add]
  unfold add?
  simp only [htotal]
  rw [if_pos hbounds]
  rfl

/-- A sum with a count is no signed word exactly if it is beyond the largest one. -/
theorem add?_eq_none_iff {more : Nat} (hmore : more < 2 ^ 31) :
    add? word (Int32.ofNat more) = none ↔ Int32.maxValue.toInt < word.toInt + more := by
  have hcount : (Int32.ofNat more).toInt = more := Int32.toInt_ofNat_of_lt hmore
  have hlow : Int32.minValue.toInt ≤ word.toInt := Int32.minValue_le_toInt word
  unfold add?
  simp only [hcount]
  split
  · next hbounds =>
      constructor
      · nofun
      · intro hlarge
        omega
  · next hbounds =>
      constructor
      · intro _
        omega
      · intro _
        rfl

/-- Four bytes are those of some word. -/
theorem exists_of_length {bytes : Bytes} (hlength : bytes.length = 4) :
    ∃ word : UInt32, bytes = toBytes word := by
  match bytes, hlength with
  | [b₀, b₁, b₂, b₃], _ => exact ⟨ofBytes b₀ b₁ b₂ b₃, (toBytes_ofBytes b₀ b₁ b₂ b₃).symm⟩

end Word

theorem Frame.header_of_toCount? {word : Int32} {count : Nat}
    (hcount : Word.toCount? word = some count) :
    header count = .ok (Word.toBytes word.toUInt32) := by
  rw [header, Word.ofCount?_of_toCount? hcount]

end GuestHost

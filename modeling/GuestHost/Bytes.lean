/-!
# Byte strings

What crosses the boundary between a guest and its host is bytes.  A byte string
is a list of octets; a C string inside it ends at its first zero byte, which
`firstNul?` finds and `untilNul` cuts away.  `splice` overwrites a stretch of
bytes in place, and `upperAscii` is the one letter map the samples use: it knows
the 26 letters of ASCII and leaves every other byte alone.
-/

namespace GuestHost

-- Sizes and limits are powers of two.  They are the core library's powers, also where other
-- powers of numbers are in scope.
attribute [default_instance 20000] instPowNat

/-- A string of octets. -/
abbrev Bytes := List UInt8

namespace Bytes

/-- The offset of the first zero byte, if there is one. -/
def firstNul? (bytes : Bytes) : Option Nat :=
  bytes.findIdx? (· == 0)

/-- The bytes before the first zero byte, all of them if there is none. -/
def untilNul (bytes : Bytes) : Bytes :=
  bytes.takeWhile (· != 0)

/-- Overwrite the bytes from `offset` on with `patch`, keeping what stands before
and behind. -/
def splice (bytes : Bytes) (offset : Nat) (patch : Bytes) : Bytes :=
  bytes.take offset ++ patch ++ bytes.drop (offset + patch.length)

/-- A lower-case ASCII letter becomes its upper-case letter, every other byte
stays what it is. -/
def upperAscii (byte : UInt8) : UInt8 :=
  if 97 ≤ byte ∧ byte ≤ 122 then byte - 32 else byte

/-- A patch that fits leaves the length as it was. -/
theorem length_splice (bytes : Bytes) (offset : Nat) (patch : Bytes)
    (hfits : offset + patch.length ≤ bytes.length) :
    (splice bytes offset patch).length = bytes.length := by
  simp only [splice, List.length_append, List.length_take, List.length_drop]
  omega

/-- The bytes before the first zero byte hold none. -/
theorem firstNul?_untilNul (bytes : Bytes) : firstNul? (untilNul bytes) = none := by
  induction bytes with
  | nil => rfl
  | cons byte rest ih =>
    by_cases hzero : byte = 0
    · simp [untilNul, firstNul?, hzero]
    · simp_all [untilNul, firstNul?, List.findIdx?_cons]

/-- Where there is a zero byte, the bytes before it are as many as its offset. -/
theorem length_untilNul {bytes : Bytes} {offset : Nat} (hfound : firstNul? bytes = some offset) :
    (untilNul bytes).length = offset := by
  induction bytes generalizing offset with
  | nil => simp [firstNul?] at hfound
  | cons byte rest ih =>
    simp only [firstNul?, List.findIdx?_cons] at hfound
    by_cases hzero : byte == 0
    · simp [hzero] at hfound
      simp [untilNul, ← hfound, bne, hzero]
    · simp only [hzero] at hfound
      cases htail : List.findIdx? (· == 0) rest with
      | none => simp [htail] at hfound
      | some n =>
        simp only [htail] at hfound
        simp at hfound
        have := @ih n htail
        simp only [untilNul, List.takeWhile_cons, bne, hzero] at this ⊢
        simp [this, ← hfound]

end Bytes

end GuestHost

import GuestHost.Scalar

/-!
# Integers without a type

A text without a type is taken for a truth value, else for a signed integer of 64 bits, else for
a binary number.  An integer has a digit in it, so it is no truth value and no name of a binary
number.  If it fits into 64 bits with a sign, it is taken for what it is.

An integer from 2⁶³ up to 2⁶⁴ does not fit, and is taken for a binary number.  Up there the
significand counts multiples of 2¹¹, so the integer comes to the nearest one of these, and of
two equally near ones to the even one.

* `Literal.integer?_eq_some_iff`: which texts are integers.
* `Literal.signed64?_of_integer?`, `Literal.binary64?_of_integer?`: what either reader of
  numbers makes of one.
* `Scalar.ofUntyped_of_signed`, `Scalar.ofUntyped_of_large`: what it is taken for.
-/

namespace GuestHost

namespace Literal

variable {text : List Char} {value : Int}

/-! ## Digits -/

theorem toLower_of_isDigit {c : Char} (hc : c.isDigit) : c.toLower = c := by
  have hsmall : c.val.toNat ≤ 57 := (Char.isDigit_iff_toNat.mp hc).2
  have hletter : ¬ ('A'.val ≤ c.val ∧ c.val ≤ 'Z'.val) := by
    intro hletter
    have hlarge : 65 ≤ c.val.toNat := UInt32.le_iff_toNat_le.mp hletter.1
    omega
  exact dif_neg hletter

/-- Whatever becomes of the case of letters, a digit stays what it is. -/
theorem lowerCase_ne {text name : String} (hdigit : ∃ c ∈ text.toList, c.isDigit)
    (hname : name.toList.any Char.isDigit = false) : Scalar.lowerCase text ≠ name := by
  rintro rfl
  obtain ⟨c, hc, hdigit⟩ := hdigit
  have hlower := List.mem_map_of_mem (f := Char.toLower) hc
  rw [toLower_of_isDigit hdigit] at hlower
  rw [Scalar.lowerCase, String.toList_ofList, List.any_eq_false] at hname
  exact hname c hlower hdigit

theorem integer?_eq (text : List Char) : integer? text =
    if (sign text).2 ≠ [] ∧ (sign text).2.all Char.isDigit then
      some (if (sign text).1 then -(ofDigits 10 (sign text).2 : Int)
        else ofDigits 10 (sign text).2)
    else none := by
  rcases hsign : sign text with ⟨negative, digits⟩
  by_cases hdigits : digits ≠ [] ∧ digits.all Char.isDigit
  · simp only [integer?, natural?, hsign, if_pos hdigits]
    rfl
  · simp only [integer?, natural?, hsign, if_neg hdigits]
    rfl

/-- An integer is one digit or more, behind a sign if there is one. -/
theorem integer?_eq_some_iff : integer? text = some value ↔
    ((sign text).2 ≠ [] ∧ (sign text).2.all Char.isDigit) ∧
      (if (sign text).1 then -(ofDigits 10 (sign text).2 : Int)
        else ofDigits 10 (sign text).2) = value := by
  rw [integer?_eq, Option.ite_none_right_eq_some, Option.some_inj]

/-- What stands behind a sign is a part of the text. -/
theorem sign_subset (text : List Char) : (sign text).2 ⊆ text := by
  unfold sign
  split
  · exact List.subset_cons_self _ _
  · exact List.subset_cons_self _ _
  · exact List.Subset.refl _

theorem exists_digit_of_integer? (hvalue : integer? text = some value) :
    ∃ c ∈ (sign text).2, c.isDigit := by
  obtain ⟨⟨hsome, hdigits⟩, -⟩ := integer?_eq_some_iff.mp hvalue
  obtain ⟨c, hc⟩ := List.exists_mem_of_ne_nil _ hsome
  exact ⟨c, hc, List.all_eq_true.mp hdigits c hc⟩

/-- The integers of 64 bits with a sign are those up to 2⁶³ in either direction. -/
theorem signed64?_of_integer? (hvalue : integer? text = some value) :
    signed64? text = if -2 ^ 63 ≤ value ∧ value < 2 ^ 63 then some value else none := by
  have hrange : leastSigned64 ≤ value ∧ value ≤ greatestSigned64 ↔
      -2 ^ 63 ≤ value ∧ value < 2 ^ 63 := by
    change -2 ^ 63 ≤ value ∧ value ≤ 2 ^ 63 - 1 ↔ _
    omega
  rw [signed64?, hvalue]
  simp only [Option.filter_some, decide_eq_true_eq, hrange]

/-! ## An integer as a binary number -/

/-- Digits alone are a whole number. -/
theorem magnitude?_of_digits {negative : Bool} (hsome : text ≠ [])
    (hdigits : text.all Char.isDigit) :
    magnitude? negative text = some (.ofDecimal negative (ofDigits 10 text) 0) := by
  have hwhole : text.takeWhile Char.isDigit = text := by
    have hkept : (text ++ []).takeWhile Char.isDigit = text ++ [].takeWhile Char.isDigit :=
      List.takeWhile_append_of_pos (List.all_eq_true.mp hdigits)
    rwa [List.append_nil, List.takeWhile_nil, List.append_nil] at hkept
  have hbehind : text.dropWhile Char.isDigit = [] := by
    have hboth := List.takeWhile_append_dropWhile (p := Char.isDigit) (l := text)
    rwa [hwhole, List.append_right_eq_self] at hboth
  simp only [magnitude?, hwhole, hbehind, List.append_nil, if_neg hsome]
  rfl

theorem binary64?_of_integer? (hvalue : integer? text = some value) :
    binary64? text = some (.ofDecimal (sign text).1 (ofDigits 10 (sign text).2) 0) := by
  obtain ⟨⟨hsome, hdigits⟩, -⟩ := integer?_eq_some_iff.mp hvalue
  -- the names of numbers are compared in small letters, and no digit becomes a letter
  have hname : ∀ name : String, name.toList.any Char.isDigit = false →
      String.ofList ((sign text).2.map Char.toLower) ≠ name := by
    intro name hname
    have hdigit := exists_digit_of_integer? hvalue
    have hlower : Scalar.lowerCase (String.ofList (sign text).2) ≠ name :=
      lowerCase_ne (by rwa [String.toList_ofList]) hname
    rwa [Scalar.lowerCase, String.toList_ofList] at hlower
  have hinf := hname "inf" (by decide)
  have hinfinity := hname "infinity" (by decide)
  have hnan := hname "nan" (by decide)
  rcases hsign : sign text with ⟨negative, digits⟩
  rw [hsign] at hinf hinfinity hnan hsome hdigits
  simp only [binary64?, hsign, hinf, hinfinity, hnan, or_self, if_false]
  exact magnitude?_of_digits hsome hdigits

end Literal

/-! ## What an integer is taken for -/

namespace Scalar

variable {text : String} {value : Int}

theorem truth?_of_integer? (hvalue : Literal.integer? text.toList = some value) :
    truth? text = none := by
  obtain ⟨c, hc, hdigit⟩ := Literal.exists_digit_of_integer? hvalue
  have hdigit : ∃ c ∈ text.toList, c.isDigit := ⟨c, Literal.sign_subset _ hc, hdigit⟩
  rw [truth?, if_neg (Literal.lowerCase_ne hdigit (by decide)),
    if_neg (Literal.lowerCase_ne hdigit (by decide))]

/-- An integer that fits into 64 bits with a sign is taken for what it is. -/
theorem ofUntyped_of_signed (hvalue : Literal.integer? text.toList = some value)
    (hlow : -2 ^ 63 ≤ value) (hhigh : value < 2 ^ 63) : ofUntyped text = .integer value := by
  have hsigned := Literal.signed64?_of_integer? hvalue
  rw [if_pos ⟨hlow, hhigh⟩] at hsigned
  simp only [ofUntyped, truth?_of_integer? hvalue, hsigned]

/-- A greater one is taken for a binary number. -/
theorem ofUntyped_of_large (hvalue : Literal.integer? text.toList = some value)
    (hlow : 2 ^ 63 ≤ value) : ofUntyped text = .number (.ofDecimal false value.toNat 0) := by
  have hsigned := Literal.signed64?_of_integer? hvalue
  rw [if_neg (by omega)] at hsigned
  obtain ⟨-, hdigits⟩ := Literal.integer?_eq_some_iff.mp hvalue
  have hbinary := Literal.binary64?_of_integer? hvalue
  -- behind a minus sign the value would not be positive
  have hsign : (Literal.sign text.toList).1 = false := by
    cases hnegative : (Literal.sign text.toList).1 with
    | false => rfl
    | true =>
        rw [if_pos hnegative] at hdigits
        omega
  rw [hsign, if_neg Bool.false_ne_true] at hdigits
  rw [hsign] at hbinary
  simp only [ofUntyped, truth?_of_integer? hvalue, hsigned, hbinary, ← hdigits, Int.toNat_natCast]

end Scalar

end GuestHost

import GuestHost.Proofs.Decimal.Binary64
import GuestHost.Proofs.Decimal.Printed
import GuestHost.Settings.Library

/-!
# Layers of settings

The file and the environment each give some of the settings, the file as values and the
environment as texts.  A text for a setting that takes a text is printed back from what it is
parsed as; a text for one that takes an integer is an integer, and comes to the count or the word
that it is, but for the counts that do not fit into 64 bits with a sign.

* `parsesAs_iff`: there is one scalar that a text is parsed as.
* `countOf_eq_self_iff`: the counts that are taken as they are written.
* `text?_of_parsesAs`, `count?_of_parsesAs`, `word?_of_parsesAs`: what a lawful library converts the
  texts of variables to.
-/

namespace GuestHost.Settings

/-! ## What a layer gives -/

/-- A value for each of some of the settings. -/
structure Layer where
  modulePath : Option String := none
  maxLogLength : Option Nat := none
  bufferStatus : Option Int32 := none
  logFilter : Option String := none

namespace Layer

/-- Two layers, the upper one prevailing setting by setting. -/
def above (upper lower : Layer) : Layer where
  modulePath := upper.modulePath <|> lower.modulePath
  maxLogLength := upper.maxLogLength <|> lower.maxLogLength
  bufferStatus := upper.bufferStatus <|> lower.bufferStatus
  logFilter := upper.logFilter <|> lower.logFilter

/-- The settings that a layer comes to: what it does not give is as it is by default. -/
def settings (layer : Layer) : Settings where
  modulePath := layer.modulePath.getD default.modulePath
  maxLogLength := layer.maxLogLength.getD default.maxLogLength
  bufferStatus := layer.bufferStatus.getD default.bufferStatus
  logFilter := layer.logFilter.getD default.logFilter

end Layer

/-! ## What a text is taken for -/

/-- There is one scalar that a text is parsed as. -/
theorem parsesAs_iff {text : String} {scalar : Scalar} :
    ParsesAs text scalar ↔ scalar = .ofUntyped text := by
  constructor
  · intro hparses
    cases hparses with
    | boolean htruth => simp only [Scalar.ofUntyped, htruth]
    | integer htruth hinteger => simp only [Scalar.ofUntyped, htruth, hinteger]
    | number htruth hinteger hnumber => simp only [Scalar.ofUntyped, htruth, hinteger, hnumber]
    | text htruth hinteger hnumber => simp only [Scalar.ofUntyped, htruth, hinteger, hnumber]
  · rintro rfl
    unfold Scalar.ofUntyped
    split
    · next htruth => exact .boolean htruth
    · next htruth hinteger => exact .integer htruth hinteger
    · next htruth hinteger hnumber => exact .number htruth hinteger hnumber
    · next htruth hinteger hnumber => exact .text htruth hinteger hnumber

/-! ## What the environment overrides -/

/-- An integer between two bounds, as a text. -/
structure Written (least greatest : Int) where
  text : String
  value : Int
  integer?_eq_some : Literal.integer? text.toList = some value
  least_le : least ≤ value
  le_greatest : value ≤ greatest

/-- A text for each of some of the settings: any text for those that take texts, and an integer in
the range of the setting for the others. -/
structure Overrides where
  modulePath : Option String := none
  maxLogLength : Option (Written 0 (2 ^ 64 - 1)) := none
  bufferStatus : Option (Written (-2 ^ 31) (2 ^ 31 - 1)) := none
  logFilter : Option String := none

/-- The count that a written one comes to.  What does not fit into 64 bits with a sign is taken
for a binary number, and comes to the nearest multiple of 2¹¹ that is an unsigned word. -/
def countOf (written : Nat) : Nat :=
  if written < 2 ^ 63 then written
  else min (2 ^ 64 - 1) (Binary64.divideToEven written (2 ^ 11) * 2 ^ 11)

namespace Overrides

/-- The layer that overrides come to if texts are taken as they are. -/
def layer (overrides : Overrides) : Layer where
  modulePath := overrides.modulePath
  maxLogLength := overrides.maxLogLength.map fun written => countOf written.value.toNat
  bufferStatus := overrides.bufferStatus.map fun written => Int32.ofInt written.value
  logFilter := overrides.logFilter

/-- Overrides with all texts printed back. -/
def printed (overrides : Overrides) : Overrides where
  modulePath := overrides.modulePath.map Scalar.printedBack
  maxLogLength := overrides.maxLogLength
  bufferStatus := overrides.bufferStatus
  logFilter := overrides.logFilter.map Scalar.printedBack

end Overrides

/-! ## What texts are converted to -/

section Convert

variable {library : Library} (hlibrary : library.Lawful) {text : String} {scalar : Scalar}
include hlibrary

theorem text?_of_parsesAs (hparses : ParsesAs text scalar) :
    library.text? scalar = some (Scalar.printedBack text) := by
  cases hparses with
  | boolean htruth =>
      rw [hlibrary.text?_boolean]
      simp only [Scalar.printedBack, htruth]
  | integer htruth hinteger =>
      rw [hlibrary.text?_integer, Scalar.printedBack_of_signed64? hinteger]
  | number htruth hinteger hnumber =>
      rw [hlibrary.text?_number, Scalar.printedBack_of_binary64? htruth hinteger hnumber]
  | text htruth hinteger hnumber =>
      rw [hlibrary.text?_text, Scalar.printedBack_of_none htruth hinteger hnumber]

theorem count?_of_parsesAs (written : Written 0 (2 ^ 64 - 1))
    (hparses : ParsesAs written.text scalar) :
    library.count? scalar = some (countOf written.value.toNat) := by
  have hleast := written.least_le
  have hgreatest := written.le_greatest
  obtain rfl := parsesAs_iff.mp hparses
  by_cases hsigned : written.value < 2 ^ 63
  · have hcount : written.value = (written.value.toNat : Int) := by omega
    rw [Scalar.ofUntyped_of_signed written.integer?_eq_some (by omega) hsigned, hcount,
      hlibrary.count?_integer, Int.toNat_natCast, countOf, if_pos (by omega)]
  · -- too large for an integer, so a number is read, and rounded
    have hlarge : 2 ^ 63 ≤ written.value.toNat := by omega
    have hword : written.value.toNat < 2 ^ 64 := by omega
    rw [Scalar.ofUntyped_of_large written.integer?_eq_some (by omega), hlibrary.count?_number,
      Binary64.toIntWithin_of_large hlarge hword, countOf, if_neg (by omega)]
    congr 1
    omega

theorem word?_of_parsesAs (written : Written (-2 ^ 31) (2 ^ 31 - 1))
    (hparses : ParsesAs written.text scalar) :
    library.word? scalar = some (Int32.ofInt written.value) := by
  have hleast := written.least_le
  have hgreatest := written.le_greatest
  have hword : (Int32.ofInt written.value).toInt = written.value :=
    Int32.toInt_ofInt_of_le hleast (by omega)
  rw [parsesAs_iff.mp hparses,
    Scalar.ofUntyped_of_signed written.integer?_eq_some (by omega) (by omega), ← hword,
    hlibrary.word?_integer, hword]

end Convert

end GuestHost.Settings

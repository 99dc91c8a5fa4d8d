import GuestHost.Proofs.Decimal.Integer

/-!
# Texts that are printed as they are written

A text without a type is taken for a truth value or for a number if it can be.  Where a text is
wanted after all, what it was taken for is printed (`Scalar.printedBack`), and that need not be
the text that was written.  `Scalar.Printed` says of which texts it is: of the two truth values in
small letters, of three names of numbers, of integers without a plus sign, without zeros in front
and with no minus sign in front of zero, of finite numbers that are the shortest decimal of what
they are read as, and of all texts that are taken for themselves.

The digits of an integer are printed one by one behind those that come before them, as long as
these are not all zeros.

* `Literal.toDigits_ofDigits_eq_iff`: the digits that are printed as they are written.
* `Literal.toString_eq_iff`: the integers that are.
* `Binary64.not_mem_toText`: no number is printed with a plus sign or with a power of ten.
* `Scalar.printedBack_eq_iff`: the texts.
-/

namespace GuestHost

namespace Literal

variable {digits rest : List Char} {c : Char} {number : Nat}

/-! ## Digits -/

theorem digitValue_lt (hc : c.isDigit) : digitValue c < 10 := by
  have hvalue : digitValue c = c.toNat - 48 := if_pos hc
  have hrange : 48 ≤ c.toNat ∧ c.toNat ≤ 57 := Char.isDigit_iff_toNat.mp hc
  omega

theorem digitChar_digitValue (hc : c.isDigit) : (digitValue c).digitChar = c := by
  have hvalue : digitValue c = c.toNat - 48 := if_pos hc
  have hrange : 48 ≤ c.toNat ∧ c.toNat ≤ 57 := Char.isDigit_iff_toNat.mp hc
  apply Char.toNat_inj.mp
  rw [Nat.toNat_digitChar_of_lt_ten (digitValue_lt hc)]
  omega

/-- Behind a number other than zero all digits are printed. -/
theorem toDigits_foldl (hnumber : 0 < number) (hdigits : digits.all Char.isDigit) :
    Nat.toDigits 10 (digits.foldl (fun number c => number * 10 + digitValue c) number) =
      Nat.toDigits 10 number ++ digits := by
  induction digits generalizing number with
  | nil => rw [List.foldl_nil, List.append_nil]
  | cons c rest ih =>
      rw [List.all_cons, Bool.and_eq_true] at hdigits
      obtain ⟨hc, hrest⟩ := hdigits
      have hlt := digitValue_lt hc
      have hstep := Nat.toDigits_append_toDigits (b := 10) (by decide) hnumber hlt
      rw [Nat.toDigits_of_lt_base hlt, digitChar_digitValue hc, Nat.mul_comm] at hstep
      rw [List.foldl_cons]
      calc Nat.toDigits 10 (rest.foldl _ (number * 10 + digitValue c))
          = Nat.toDigits 10 (number * 10 + digitValue c) ++ rest := ih (by omega) hrest
        _ = Nat.toDigits 10 number ++ [c] ++ rest := by rw [hstep]
        _ = Nat.toDigits 10 number ++ c :: rest := by
            rw [List.append_assoc, List.singleton_append]

/-- A digit other than zero is printed, and so are all digits behind it. -/
theorem toDigits_ofDigits_cons (hne : c ≠ '0') (hdigits : (c :: rest).all Char.isDigit) :
    Nat.toDigits 10 (ofDigits 10 (c :: rest)) = c :: rest := by
  rw [List.all_cons, Bool.and_eq_true] at hdigits
  obtain ⟨hc, hrest⟩ := hdigits
  have hpositive : 0 < digitValue c := by
    refine Nat.pos_of_ne_zero fun hzero => hne ?_
    rw [← digitChar_digitValue hc, hzero]
    rfl
  have hfirst : ofDigits 10 (c :: rest) =
      rest.foldl (fun number c => number * 10 + digitValue c) (digitValue c) := by
    rw [ofDigits, List.foldl_cons, Nat.zero_mul, Nat.zero_add]
  calc Nat.toDigits 10 (ofDigits 10 (c :: rest))
      = Nat.toDigits 10 (digitValue c) ++ rest := by rw [hfirst, toDigits_foldl hpositive hrest]
    _ = [c] ++ rest := by
        rw [Nat.toDigits_of_lt_base (digitValue_lt hc), digitChar_digitValue hc]

theorem ofDigits_zero_cons (rest : List Char) : ofDigits 10 ('0' :: rest) = ofDigits 10 rest := rfl

/-- No more digits are printed than were written. -/
theorem length_toDigits_ofDigits_le (hsome : digits ≠ []) (hdigits : digits.all Char.isDigit) :
    (Nat.toDigits 10 (ofDigits 10 digits)).length ≤ digits.length := by
  induction digits with
  | nil => exact absurd rfl hsome
  | cons c rest ih =>
      by_cases hzero : c = '0'
      · subst hzero
        rw [List.all_cons, Bool.and_eq_true] at hdigits
        cases rest with
        | nil => exact Nat.le_refl 1
        | cons next rest =>
            rw [ofDigits_zero_cons]
            exact Nat.le_succ_of_le (ih (List.cons_ne_nil _ _) hdigits.2)
      · exact Nat.le_of_eq (congrArg List.length (toDigits_ofDigits_cons hzero hdigits))

/-- There is no zero in front of other digits. -/
def NoZeroInFront (digits : List Char) : Prop :=
  digits.head? = some '0' → digits = ['0']

theorem toDigits_ofDigits_eq_iff (hsome : digits ≠ []) (hdigits : digits.all Char.isDigit) :
    Nat.toDigits 10 (ofDigits 10 digits) = digits ↔ NoZeroInFront digits := by
  obtain ⟨c, rest, rfl⟩ := List.exists_cons_of_ne_nil hsome
  by_cases hzero : c = '0'
  · subst hzero
    constructor
    · -- the digits behind the zero come to the same number, which is not printed in more places
      intro hprinted _
      rw [List.all_cons, Bool.and_eq_true] at hdigits
      cases rest with
      | nil => rfl
      | cons next rest =>
          have hlength := length_toDigits_ofDigits_le (List.cons_ne_nil next rest) hdigits.2
          rw [← ofDigits_zero_cons, hprinted] at hlength
          exact absurd hlength (Nat.not_succ_le_self _)
    · intro hfront
      rw [hfront rfl]
      rfl
  · refine iff_of_true (toDigits_ofDigits_cons hzero hdigits) fun hhead => ?_
    exact absurd (Option.some.inj hhead) hzero

/-! ## Integers -/

/-- An integer without a plus sign, without zeros in front, and without a sign if it is zero. -/
structure PrintedInteger (text : List Char) : Prop where
  noPlus : text.head? ≠ some '+'
  noZeroInFront : NoZeroInFront (sign text).2
  noMinusZero : text ≠ ['-', '0']

theorem sign_cases (text : List Char) :
    (∃ rest, text = '-' :: rest ∧ sign text = (true, rest)) ∨
      (∃ rest, text = '+' :: rest ∧ sign text = (false, rest)) ∨
      text.head? ≠ some '-' ∧ text.head? ≠ some '+' ∧ sign text = (false, text) := by
  unfold sign
  split
  · exact .inl ⟨_, rfl, rfl⟩
  · exact .inr (.inl ⟨_, rfl, rfl⟩)
  · next hminus hplus =>
      refine .inr (.inr ⟨fun hhead => ?_, fun hhead => ?_, rfl⟩)
      · obtain ⟨rest, rfl⟩ := List.head?_eq_some_iff.mp hhead
        exact hminus rest rfl
      · obtain ⟨rest, rfl⟩ := List.head?_eq_some_iff.mp hhead
        exact hplus rest rfl

theorem toList_toString_natCast (number : Nat) :
    (toString (number : Int)).toList = Nat.toDigits 10 number := by
  rw [Int.toString_eq_repr, Int.repr_eq_if, if_pos (Int.natCast_nonneg number), Int.toNat_natCast,
    Nat.repr_eq_ofList_toDigits, String.toList_ofList]

theorem toList_toString_neg (hnumber : 0 < number) :
    (toString (-(number : Int))).toList = '-' :: Nat.toDigits 10 number := by
  have hminus : "-".toList = ['-'] := rfl
  rw [Int.toString_eq_repr, Int.repr_eq_if, if_neg (by omega), Int.neg_neg, Int.toNat_natCast,
    String.toList_append, hminus, Nat.repr_eq_ofList_toDigits, String.toList_ofList,
    List.singleton_append]

/-- Digits that come to zero begin with a zero. -/
theorem head?_of_ofDigits_eq_zero (hsome : digits ≠ []) (hdigits : digits.all Char.isDigit)
    (hzero : ofDigits 10 digits = 0) : digits.head? = some '0' := by
  obtain ⟨c, rest, rfl⟩ := List.exists_cons_of_ne_nil hsome
  refine Decidable.byContradiction fun hhead => ?_
  have hne : c ≠ '0' := fun heq => hhead (congrArg some heq)
  have hprinted := toDigits_ofDigits_cons hne hdigits
  rw [hzero, Nat.toDigits_zero] at hprinted
  exact hne (List.cons.inj hprinted).1.symm

variable {text : List Char} {value : Int}

/-- Behind a minus sign the digits are printed as they are written, unless they come to zero. -/
theorem toString_minus_eq_iff (hsome : digits ≠ []) (hdigits : digits.all Char.isDigit) :
    (toString (-(ofDigits 10 digits : Int))).toList = '-' :: digits ↔
      PrintedInteger ('-' :: digits) := by
  by_cases hzero : ofDigits 10 digits = 0
  · -- zero is printed without a sign
    refine iff_of_false (fun hprinted => ?_) fun hprinted => ?_
    · have hdigit : (toString (-((0 : Nat) : Int))).toList = ['0'] := by decide
      rw [hzero, hdigit] at hprinted
      exact absurd (List.cons.inj hprinted).1 (by decide)
    · have hfront := head?_of_ofDigits_eq_zero hsome hdigits hzero
      exact hprinted.noMinusZero (congrArg ('-' :: ·) (hprinted.noZeroInFront hfront))
  · rw [toList_toString_neg (Nat.pos_of_ne_zero hzero), List.cons.injEq, and_iff_right rfl,
      toDigits_ofDigits_eq_iff hsome hdigits]
    refine ⟨fun hfront => ⟨nofun, hfront, fun hminusZero => hzero ?_⟩, (·.noZeroInFront)⟩
    obtain rfl := (List.cons.inj hminusZero).2
    rfl

/-- A plus sign is never printed. -/
theorem toString_ne_plus (digits : List Char) (number : Nat) :
    (toString (number : Int)).toList ≠ '+' :: digits := by
  intro hprinted
  have hplus := List.mem_cons_self (a := '+') (l := digits)
  rw [← hprinted, toList_toString_natCast] at hplus
  exact absurd (Nat.isDigit_of_mem_toDigits (by decide) (by decide) hplus) (by decide)

/-- These are the integers that are printed as they are written. -/
theorem toString_eq_iff (hvalue : integer? text = some value) :
    (toString value).toList = text ↔ PrintedInteger text := by
  obtain ⟨⟨hsome, hdigits⟩, rfl⟩ := integer?_eq_some_iff.mp hvalue
  rcases sign_cases text with ⟨rest, rfl, hsign⟩ | ⟨rest, rfl, hsign⟩ | ⟨hminus, hplus, hsign⟩
  · rw [hsign] at hsome hdigits ⊢
    rw [if_pos rfl]
    exact toString_minus_eq_iff hsome hdigits
  · rw [hsign, if_neg Bool.false_ne_true]
    exact iff_of_false (toString_ne_plus rest _) fun hprinted => hprinted.noPlus rfl
  -- without a sign there is only the front to look at
  · have hfrontIff : PrintedInteger text ↔ NoZeroInFront text := by
      refine ⟨fun hprinted => ?_, fun hfront => ⟨hplus, ?_, fun hminusZero => hminus ?_⟩⟩
      · have hfront := hprinted.noZeroInFront
        rwa [hsign] at hfront
      · rwa [hsign]
      · rw [hminusZero]
        rfl
    rw [hsign] at hsome hdigits ⊢
    rw [if_neg Bool.false_ne_true, toList_toString_natCast, hfrontIff]
    exact toDigits_ofDigits_eq_iff hsome hdigits

theorem integer?_of_signed64? (hvalue : signed64? text = some value) :
    integer? text = some value :=
  (Option.filter_eq_some_iff.mp hvalue).1

end Literal

/-! ## Numbers -/

namespace Binary64

variable {digits : List Char} {scale : Int} {c : Char}

/-- A number is laid out in its digits, in zeros around them, and with a point in one place. -/
theorem mem_layout (hc : c ∈ layout digits scale) : c ∈ digits ∨ c = '0' ∨ c = '.' := by
  simp only [layout] at hc
  split at hc
  · rcases List.mem_append.mp hc with hdigit | hzero
    · exact .inl hdigit
    · exact .inr (.inl (List.eq_of_mem_replicate hzero))
  · split at hc
    · rcases List.mem_append.mp hc with hwhole | hrest
      · exact .inl (List.mem_of_mem_take hwhole)
      · rcases List.mem_cons.mp hrest with hpoint | hfraction
        · exact .inr (.inr hpoint)
        · exact .inl (List.mem_of_mem_drop hfraction)
    · simp only [List.mem_cons, List.mem_append] at hc
      rcases hc with hzero | hpoint | hzeros | hdigit
      · exact .inr (.inl hzero)
      · exact .inr (.inr hpoint)
      · exact .inr (.inl (List.eq_of_mem_replicate hzeros))
      · exact .inl hdigit

/-- No number is printed with a plus sign or with a power of ten. -/
theorem not_mem_toText (hmark : c = '+' ∨ c = 'e' ∨ c = 'E') (number : Binary64) :
    c ∉ number.toText.toList := by
  have hdigit : ∀ digit : Char, digit.isDigit ∨ digit = '0' ∨ digit = '.' → c ≠ digit := by
    rintro digit hdigit rfl
    rcases hmark with rfl | rfl | rfl <;> exact absurd hdigit (by decide)
  cases number with
  | nan => rcases hmark with rfl | rfl | rfl <;> decide
  | infinite negative => cases negative <;> rcases hmark with rfl | rfl | rfl <;> decide
  | finite negative significand exponent =>
      have hminus : c ≠ '-' := by rcases hmark with rfl | rfl | rfl <;> decide
      -- of either sign, what is printed behind it is one zero, or digits around a point
      suffices hmagnitude : c ∉ (if significand = 0 then ['0']
          else layout (Nat.toDigits 10 (shortest significand exponent).1)
            (shortest significand exponent).2) by
        cases negative with
        | false => simpa [toText] using hmagnitude
        | true => simpa [toText, hminus] using hmagnitude
      split
      · intro hc
        exact hdigit '0' (.inr (.inl rfl)) (List.mem_singleton.mp hc)
      · intro hc
        refine hdigit c ?_ rfl
        rcases mem_layout hc with hprinted | hzero | hpoint
        · exact .inl (Nat.isDigit_of_mem_toDigits (by decide) (by decide) hprinted)
        · exact .inr (.inl hzero)
        · exact .inr (.inr hpoint)

end Binary64

/-! ## Texts without a type -/

namespace Scalar

variable {text : String}

/-- The text that is printed for what a text is taken for: a truth value, else a signed integer
of 64 bits, else a binary number, else the text itself. -/
def printedBack (text : String) : String :=
  match truth? text, Literal.signed64? text.toList, Literal.binary64? text.toList with
  | some value, _, _ => toString value
  | none, some value, _ => toString value
  | none, none, some value => value.toText
  | none, none, none => text

/-- The texts that are printed as they are written. -/
inductive Printed : String → Prop
  | on : Printed "true"
  | off : Printed "false"
  | nan : Printed "NaN"
  | infinite (negative : Bool) : Printed (if negative then "-inf" else "inf")
  | integer {text : String} {value : Int} (hvalue : Literal.signed64? text.toList = some value)
      (hprinted : Literal.PrintedInteger text.toList) : Printed text
  | finite {text : String} {negative : Bool} {significand : Nat} {exponent : Int}
      (htruth : truth? text = none) (hinteger : Literal.signed64? text.toList = none)
      (hnumber : Literal.binary64? text.toList = some (.finite negative significand exponent))
      (hprinted : (Binary64.finite negative significand exponent).toText = text) : Printed text
  | text {text : String} (htruth : truth? text = none)
      (hinteger : Literal.signed64? text.toList = none)
      (hnumber : Literal.binary64? text.toList = none) : Printed text

theorem printedBack_of_signed64? {value : Int}
    (hvalue : Literal.signed64? text.toList = some value) : printedBack text = toString value := by
  have htruth := truth?_of_integer? (Literal.integer?_of_signed64? hvalue)
  simp only [printedBack, htruth, hvalue]

theorem printedBack_of_binary64? {number : Binary64} (htruth : truth? text = none)
    (hinteger : Literal.signed64? text.toList = none)
    (hnumber : Literal.binary64? text.toList = some number) : printedBack text = number.toText := by
  simp only [printedBack, htruth, hinteger, hnumber]

theorem printedBack_of_none (htruth : truth? text = none)
    (hinteger : Literal.signed64? text.toList = none)
    (hnumber : Literal.binary64? text.toList = none) : printedBack text = text := by
  simp only [printedBack, htruth, hinteger, hnumber]

/-- A text that is printed back as it is was taken for what is printed that way. -/
theorem printed_of_printedBack (hprinted : printedBack text = text) : Printed text := by
  -- by what the text is taken for, in the order in which that is tried
  cases htruth : truth? text with
  | some value =>
      have hback : printedBack text = toString value := by simp only [printedBack, htruth]
      rw [← hprinted, hback]
      cases value
      · exact .off
      · exact .on
  | none =>
      cases hinteger : Literal.signed64? text.toList with
      | some value =>
          rw [printedBack_of_signed64? hinteger] at hprinted
          have hvalue := Literal.integer?_of_signed64? hinteger
          exact .integer hinteger
            ((Literal.toString_eq_iff hvalue).mp (congrArg String.toList hprinted))
      | none =>
          cases hnumber : Literal.binary64? text.toList with
          | none => exact .text htruth hinteger hnumber
          | some number =>
              rw [printedBack_of_binary64? htruth hinteger hnumber] at hprinted
              cases number with
              | nan => exact hprinted ▸ .nan
              | infinite negative => exact hprinted ▸ .infinite negative
              | finite negative significand exponent =>
                  exact .finite htruth hinteger hnumber hprinted

/-- The texts that are printed as they are written are those that `Printed` lists. -/
theorem printedBack_eq_iff : printedBack text = text ↔ Printed text := by
  refine ⟨printed_of_printedBack, fun hprinted => ?_⟩
  cases hprinted with
  | on => decide +kernel
  | off => decide +kernel
  | nan => decide +kernel
  | infinite negative => cases negative <;> decide +kernel
  | integer hsigned hprinted =>
      have hvalue := Literal.integer?_of_signed64? hsigned
      rw [printedBack_of_signed64? hsigned]
      exact String.toList_inj.mp ((Literal.toString_eq_iff hvalue).mpr hprinted)
  | finite htruth hinteger hnumber hprinted =>
      rw [printedBack_of_binary64? htruth hinteger hnumber]
      exact hprinted
  | text htruth hinteger hnumber => exact printedBack_of_none htruth hinteger hnumber

/-- A number with a plus sign or with a power of ten is printed in another way. -/
theorem not_printed_of_mark {number : Binary64} {mark : Char} (htruth : truth? text = none)
    (hinteger : Literal.signed64? text.toList = none)
    (hnumber : Literal.binary64? text.toList = some number)
    (hmark : mark = '+' ∨ mark = 'e' ∨ mark = 'E') (hmem : mark ∈ text.toList) :
    ¬ Printed text := by
  intro hprinted
  have hsame := printedBack_eq_iff.mpr hprinted
  rw [printedBack_of_binary64? htruth hinteger hnumber] at hsame
  rw [← hsame] at hmem
  exact Binary64.not_mem_toText hmark number hmem

end Scalar

end GuestHost

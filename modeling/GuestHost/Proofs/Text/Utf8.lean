import GuestHost.Text.Utf8

/-!
# Reading what was written

`encode` writes each character as one to four bytes, and the reader takes those
bytes apart again.  Main statement: fed the bytes of a text, the reader finds its
characters and no ill-formed part (`pieces_encode`), so that both `decode?` and
`decodeLossy` give the text back.  Whatever bytes stand behind those of a text, the text
is read first (`decodeLossy_encode_append`).

The argument is about one character.  Its first byte tells the reader how many
more bytes there are, and narrows the range of the second byte for the four lead
bytes at which overlong forms, surrogates and values that are too large begin;
`feed_utf8EncodeChar` follows the reader through these bytes.
-/

namespace GuestHost.Utf8

theorem toNat_ofNat {n : Nat} (hn : n < 256) : (UInt8.ofNat n).toNat = n := by
  simp [Nat.mod_eq_of_lt hn]

/-! ## Lead bytes -/

theorem step_ascii {n : Nat} (hn : n < 0x80) :
    step .idle (UInt8.ofNat n) = ([some (Char.ofNat n)], .idle) := by
  have hbyte := toNat_ofNat (n := n) (by omega)
  have hlt : UInt8.ofNat n < 0x80 := by
    rw [UInt8.lt_iff_toNat_lt, hbyte]
    exact hn
  rw [step, start, if_pos hlt, hbyte]

theorem step_two {n : Nat} (hlow : 0xC2 ≤ n) (hhigh : n < 0xE0) :
    step .idle (UInt8.ofNat n) = ([], .within (n % 32) 1 0x80 0xBF) := by
  have hbyte := toNat_ofNat (n := n) (by omega)
  simp only [step, start, UInt8.lt_iff_toNat_lt, hbyte, UInt8.reduceToNat]
  rw [if_neg (by omega), if_neg (by omega), if_pos (by omega)]

/-- The range of the second of three bytes. -/
def secondOfThree (lead : Nat) : UInt8 × UInt8 :=
  if lead = 0xE0 then (0xA0, 0xBF) else if lead = 0xED then (0x80, 0x9F) else (0x80, 0xBF)

theorem step_three {n : Nat} (hlow : 0xE0 ≤ n) (hhigh : n < 0xF0) :
    step .idle (UInt8.ofNat n) =
      ([], .within (n % 16) 2 (secondOfThree n).1 (secondOfThree n).2) := by
  have hbyte := toNat_ofNat (n := n) (by omega)
  simp only [step, start, secondOfThree, UInt8.lt_iff_toNat_lt, ← UInt8.toNat_inj, hbyte,
    UInt8.reduceToNat]
  rw [if_neg (by omega), if_neg (by omega), if_neg (by omega)]
  split
  · next hlead => simp [hlead]
  · split
    · next hlead => simp [hlead]
    · rfl

/-- The range of the second of four bytes. -/
def secondOfFour (lead : Nat) : UInt8 × UInt8 :=
  if lead = 0xF0 then (0x90, 0xBF) else if lead = 0xF4 then (0x80, 0x8F) else (0x80, 0xBF)

theorem step_four {n : Nat} (hlow : 0xF0 ≤ n) (hhigh : n < 0xF5) :
    step .idle (UInt8.ofNat n) =
      ([], .within (n % 8) 3 (secondOfFour n).1 (secondOfFour n).2) := by
  have hbyte := toNat_ofNat (n := n) (by omega)
  simp only [step, start, secondOfFour, UInt8.lt_iff_toNat_lt, ← UInt8.toNat_inj, hbyte,
    UInt8.reduceToNat]
  rw [if_neg (by omega), if_neg (by omega), if_neg (by omega), if_neg (by omega),
    if_neg (by omega), if_neg (by omega)]
  split
  · next hlead => simp [hlead]
  · by_cases hlead : n = 0xF4
    · simp [hlead]
    · rw [if_pos (by omega), if_neg hlead]

/-! ## The bytes behind the lead byte -/

theorem ofNat_within {n : Nat} {low high : UInt8} (hlow : low.toNat ≤ n)
    (hhigh : n ≤ high.toNat) :
    (low ≤ UInt8.ofNat n ∧ UInt8.ofNat n ≤ high) ∧ (UInt8.ofNat n).toNat = n := by
  have hbyte := toNat_ofNat (n := n) (by have := high.toNat_lt; omega)
  simp only [UInt8.le_iff_toNat_le, hbyte]
  exact ⟨⟨hlow, hhigh⟩, trivial⟩

theorem step_more {bits remaining n : Nat} {low high : UInt8} (hlow : low.toNat ≤ n)
    (hhigh : n ≤ high.toNat) :
    step (.within bits (remaining + 2) low high) (UInt8.ofNat n) =
      ([], .within (bits * 64 + n % 64) (remaining + 1) 0x80 0xBF) := by
  obtain ⟨hrange, hbyte⟩ := ofNat_within hlow hhigh
  simp [step, hrange, hbyte]

theorem step_last {bits n : Nat} {low high : UInt8} (hlow : low.toNat ≤ n)
    (hhigh : n ≤ high.toNat) :
    step (.within bits 1 low high) (UInt8.ofNat n) =
      ([some (Char.ofNat (bits * 64 + n % 64))], .idle) := by
  obtain ⟨hrange, hbyte⟩ := ofNat_within hlow hhigh
  simp [step, hrange, hbyte]

/-! ## Whole characters -/

theorem feed_of_step {state next : State} {byte : UInt8} {found : List Piece}
    (hstep : step state byte = (found, next)) (read : List Piece) :
    feed (read, state) byte = (found.reverse ++ read, next) := by
  simp only [feed, hstep]

/-- The reader finds the character whose bytes it is fed. -/
theorem feed_utf8EncodeChar (c : Char) (read : List Piece) :
    (String.utf8EncodeChar c).foldl feed (read, .idle) = (some c :: read, .idle) := by
  have hvalid := c.valid
  have hchar : Char.ofNat c.val.toNat = c := Char.ofNat_toNat c
  simp only [UInt32.isValidChar, Nat.isValidChar] at hvalid
  simp only [String.utf8EncodeChar]
  generalize c.val.toNat = v at hvalid hchar
  split
  · next hone =>
      rw [List.foldl_cons, feed_of_step (step_ascii (by omega)), hchar]
      rfl
  split
  · next hone htwo =>
      have hbits : (v / 64 % 0x20 + 0xc0) % 32 * 64 + (v % 0x40 + 0x80) % 64 = v := by omega
      rw [List.foldl_cons, feed_of_step (step_two (by omega) (by omega)), List.foldl_cons,
        feed_of_step (step_last (by simp) (by simp; omega)), hbits, hchar]
      rfl
  split
  · next hone htwo hthree =>
      -- the second byte is in the narrower range since `v` is no overlong form and no surrogate
      have hsecond : (secondOfThree (v / 4096 % 0x10 + 0xe0)).1.toNat ≤ v / 64 % 0x40 + 0x80 ∧
          v / 64 % 0x40 + 0x80 ≤ (secondOfThree (v / 4096 % 0x10 + 0xe0)).2.toNat := by
        unfold secondOfThree
        split
        · simp; omega
        · split <;> simp <;> omega
      have hbits : ((v / 4096 % 0x10 + 0xe0) % 16 * 64 + (v / 64 % 0x40 + 0x80) % 64) * 64 +
          (v % 0x40 + 0x80) % 64 = v := by omega
      rw [List.foldl_cons, feed_of_step (step_three (by omega) (by omega)), List.foldl_cons,
        feed_of_step (step_more hsecond.1 hsecond.2), List.foldl_cons,
        feed_of_step (step_last (by simp) (by simp; omega)), hbits, hchar]
      rfl
  · next hone htwo hthree =>
      have hsecond : (secondOfFour (v / 262144 % 0x08 + 0xf0)).1.toNat ≤ v / 4096 % 0x40 + 0x80 ∧
          v / 4096 % 0x40 + 0x80 ≤ (secondOfFour (v / 262144 % 0x08 + 0xf0)).2.toNat := by
        unfold secondOfFour
        split
        · simp; omega
        · split <;> simp <;> omega
      have hbits : (((v / 262144 % 0x08 + 0xf0) % 8 * 64 + (v / 4096 % 0x40 + 0x80) % 64) * 64 +
          (v / 64 % 0x40 + 0x80) % 64) * 64 + (v % 0x40 + 0x80) % 64 = v := by omega
      rw [List.foldl_cons, feed_of_step (step_four (by omega) (by omega)), List.foldl_cons,
        feed_of_step (step_more hsecond.1 hsecond.2), List.foldl_cons,
        feed_of_step (step_more (by simp) (by simp; omega)), List.foldl_cons,
        feed_of_step (step_last (by simp) (by simp; omega)), hbits, hchar]
      rfl

/-! ## Texts -/

theorem foldl_feed_flatMap (chars : List Char) (read : List Piece) :
    (chars.flatMap String.utf8EncodeChar).foldl feed (read, .idle) =
      ((chars.map some).reverse ++ read, .idle) := by
  induction chars generalizing read with
  | nil => rfl
  | cons c rest ih =>
      rw [List.flatMap_cons, List.foldl_append, feed_utf8EncodeChar, ih]
      simp

/-- The bytes of a text are read as its characters. -/
theorem pieces_encode (text : String) : pieces (encode text) = text.toList.map some := by
  rw [pieces, encode, foldl_feed_flatMap]
  simp [finish]

/-- What was written is well-formed, and is read as what it was. -/
@[simp] theorem decode?_encode (text : String) : decode? (encode text) = some text := by
  simp [decode?, pieces_encode, List.filterMap_map]

/-- Nothing is replaced where a text was written. -/
@[simp] theorem decodeLossy_encode (text : String) : decodeLossy (encode text) = text := by
  simp [decodeLossy, pieces_encode, Function.comp_def]

/-! ## Texts with bytes behind them -/

theorem encode_append (first second : String) :
    encode (first ++ second) = encode first ++ encode second := by
  simp [encode]

/-- What was read before does not change what is read next. -/
theorem foldl_feed (bytes : Bytes) (read : List Piece) (state : State) :
    bytes.foldl feed (read, state) =
      ((bytes.foldl feed ([], state)).1 ++ read, (bytes.foldl feed ([], state)).2) := by
  induction bytes generalizing read state with
  | nil => rfl
  | cons byte rest ih =>
      simp only [List.foldl_cons, feed]
      rw [ih, ih ((step state byte).1.reverse ++ [])]
      simp

/-- Behind a text the reader is between two characters again, so what follows is read as
it would be on its own. -/
theorem pieces_encode_append (text : String) (bytes : Bytes) :
    pieces (encode text ++ bytes) = text.toList.map some ++ pieces bytes := by
  rw [pieces, encode, List.foldl_append, foldl_feed_flatMap, foldl_feed]
  simp [pieces]

theorem decodeLossy_encode_append (text : String) (bytes : Bytes) :
    decodeLossy (encode text ++ bytes) = text ++ decodeLossy bytes := by
  simp [decodeLossy, pieces_encode_append, Function.comp_def, String.ofList_append]

/-! ## Zero bytes -/

/-- Only U+0000 is written with a zero byte. -/
theorem zero_mem_utf8EncodeChar_iff {c : Char} :
    (0 : UInt8) ∈ String.utf8EncodeChar c ↔ c = '\x00' := by
  have hchar : c = '\x00' ↔ c.val.toNat = 0 := by
    rw [Char.ext_iff, ← UInt32.toNat_inj]
    rfl
  rw [hchar]
  simp only [String.utf8EncodeChar]
  generalize c.val.toNat = v
  split
  · simp [← UInt8.toNat_inj]
    omega
  split
  · simp [← UInt8.toNat_inj]
    omega
  split
  · simp [← UInt8.toNat_inj]
    omega
  · simp [← UInt8.toNat_inj]
    omega

/-- A text without U+0000 is written without a zero byte. -/
theorem firstNul?_encode {text : String} (htext : '\x00' ∉ text.toList) :
    (encode text).firstNul? = none := by
  simp only [Bytes.firstNul?, List.findIdx?_eq_none_iff, beq_eq_false_iff_ne, encode,
    List.mem_flatMap]
  rintro byte ⟨c, hmem, hbyte⟩ rfl
  exact htext (zero_mem_utf8EncodeChar_iff.mp hbyte ▸ hmem)

end GuestHost.Utf8

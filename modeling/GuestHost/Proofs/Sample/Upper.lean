import GuestHost.Proofs.Sample.Entry
import GuestHost.Proofs.Text.Pieces
import GuestHost.Session.Run

/-!
# Upper-case letters in place

A lent message is put in upper-case letters byte by byte, and what is done to its bytes can
be told of its characters.  Of the bytes in which a character is written, those of a letter
from a to z are changed and no others: such a letter is its own byte, and every byte of a
character that takes more than one is beyond the letters.  So a text stays a text, and it is
the same text with its letters replaced (`Utf8.decode?_map_upperAscii`).

A zero byte is no letter, and no letter becomes one.  So the message ends where it ended, and
what stands behind its end is not looked at (`Block.firstNul?_upper`).
-/

namespace GuestHost

/-! ## Bytes -/

namespace Bytes

variable {bytes : Bytes} {byte : UInt8}

theorem toNat_upperAscii (byte : UInt8) :
    (upperAscii byte).toNat =
      if 97 ≤ byte.toNat ∧ byte.toNat ≤ 122 then byte.toNat - 32 else byte.toNat := by
  have hletter : (97 ≤ byte ∧ byte ≤ 122) ↔ (97 ≤ byte.toNat ∧ byte.toNat ≤ 122) := by
    simp only [UInt8.le_iff_toNat_le, UInt8.reduceToNat]
  unfold upperAscii
  by_cases hbyte : 97 ≤ byte.toNat ∧ byte.toNat ≤ 122
  · have hle : (32 : UInt8) ≤ byte := by
      rw [UInt8.le_iff_toNat_le]
      exact Nat.le_trans (by decide) hbyte.1
    rw [if_pos (hletter.mpr hbyte), if_pos hbyte, UInt8.toNat_sub_of_le _ _ hle]
    rfl
  · rw [if_neg (fun hboth => hbyte (hletter.mp hboth)), if_neg hbyte]

/-- No letter becomes a zero byte. -/
theorem upperAscii_ne_zero (hbyte : byte ≠ 0) : upperAscii byte ≠ 0 := by
  rw [Ne, ← UInt8.toNat_inj, UInt8.toNat_zero] at hbyte ⊢
  rw [toNat_upperAscii]
  split <;> omega

/-- Upper-case letters stay what they are. -/
theorem upperAscii_upperAscii (byte : UInt8) : upperAscii (upperAscii byte) = upperAscii byte := by
  apply UInt8.toNat.inj
  rw [toNat_upperAscii, toNat_upperAscii]
  by_cases hletter : 97 ≤ byte.toNat ∧ byte.toNat ≤ 122
  · rw [if_pos hletter, if_neg (by omega)]
  · rw [if_neg hletter, if_neg hletter]

/-- What is beyond ASCII stays what it is. -/
theorem upperAscii_of_le (hbyte : 0x80 ≤ byte.toNat) : upperAscii byte = byte := by
  apply UInt8.toNat.inj
  rw [toNat_upperAscii, if_neg (by omega)]

theorem firstNul?_map_upperAscii (hnone : bytes.firstNul? = none) :
    firstNul? (bytes.map upperAscii) = none := by
  rw [firstNul?_eq_none_iff] at hnone ⊢
  intro upper hupper
  obtain ⟨byte, hbyte, rfl⟩ := List.mem_map.mp hupper
  exact upperAscii_ne_zero (hnone byte hbyte)

end Bytes

/-! ## Characters -/

namespace Utf8

/-- The letters that have an upper-case one are those from a to z, as they are for bytes. -/
theorem toNat_toUpper (c : Char) :
    c.toUpper.val.toNat =
      if 97 ≤ c.val.toNat ∧ c.val.toNat ≤ 122 then c.val.toNat - 32 else c.val.toNat := by
  have hletter : ('a'.val ≤ c.val ∧ c.val ≤ 'z'.val) ↔
      (97 ≤ c.val.toNat ∧ c.val.toNat ≤ 122) := by
    simp only [UInt32.le_iff_toNat_le]
    rfl
  unfold Char.toUpper
  by_cases hc : 97 ≤ c.val.toNat ∧ c.val.toNat ≤ 122
  · have hshift : ('A'.val - 'a'.val).toNat = 2 ^ 32 - 32 := by decide
    rw [dif_pos (hletter.mpr hc), if_pos hc, UInt32.toNat_add, hshift]
    omega
  · rw [dif_neg (fun hboth => hc (hletter.mp hboth)), if_neg hc]

theorem toUpper_of_le {c : Char} (hc : 0x80 ≤ c.val.toNat) : c.toUpper = c := by
  rw [Char.ext_iff, ← UInt32.toNat_inj, toNat_toUpper, if_neg (by omega)]

/-- A character beyond ASCII is written without any ASCII byte. -/
theorem le_of_mem_utf8EncodeChar {c : Char} (hc : 0x80 ≤ c.val.toNat) {byte : UInt8}
    (hbyte : byte ∈ String.utf8EncodeChar c) : 0x80 ≤ byte.toNat := by
  simp only [String.utf8EncodeChar] at hbyte
  generalize c.val.toNat = v at hc hbyte
  rw [if_neg (by omega)] at hbyte
  split at hbyte
  · simp only [List.mem_cons, List.not_mem_nil, or_false] at hbyte
    rcases hbyte with rfl | rfl <;> rw [toNat_ofNat (by omega)] <;> omega
  split at hbyte
  · simp only [List.mem_cons, List.not_mem_nil, or_false] at hbyte
    rcases hbyte with rfl | rfl | rfl <;> rw [toNat_ofNat (by omega)] <;> omega
  · simp only [List.mem_cons, List.not_mem_nil, or_false] at hbyte
    rcases hbyte with rfl | rfl | rfl | rfl <;> rw [toNat_ofNat (by omega)] <;> omega

/-- What is done to the bytes of a character is done to the character. -/
theorem map_upperAscii_utf8EncodeChar (c : Char) :
    (String.utf8EncodeChar c).map Bytes.upperAscii = String.utf8EncodeChar c.toUpper := by
  -- a character of one byte is that byte, the bytes of any other one are beyond the letters
  rcases Nat.lt_or_ge c.val.toNat 0x80 with hascii | hbeyond
  · have hupper := toNat_toUpper c
    have hupperAscii : c.toUpper.val.toNat < 0x80 := by
      rw [hupper]
      split <;> omega
    have hbyte : Bytes.upperAscii (UInt8.ofNat c.val.toNat) =
        UInt8.ofNat c.toUpper.val.toNat := by
      apply UInt8.toNat.inj
      rw [Bytes.toNat_upperAscii, toNat_ofNat (by omega), toNat_ofNat (by omega), hupper]
    simp only [String.utf8EncodeChar]
    rw [if_pos (by omega), if_pos (by omega), List.map_singleton, hbyte]
  · rw [toUpper_of_le hbeyond]
    calc (String.utf8EncodeChar c).map Bytes.upperAscii
        = (String.utf8EncodeChar c).map id :=
          List.map_congr_left fun byte hbyte =>
            Bytes.upperAscii_of_le (le_of_mem_utf8EncodeChar hbeyond hbyte)
      _ = String.utf8EncodeChar c := List.map_id _

theorem map_upperAscii_encode (text : String) :
    (encode text).map Bytes.upperAscii = encode (text.map Char.toUpper) := by
  unfold encode
  rw [String.toList_map]
  induction text.toList with
  | nil => rfl
  | cons c rest ih =>
      rw [List.flatMap_cons, List.map_append, map_upperAscii_utf8EncodeChar, ih, List.map_cons,
        List.flatMap_cons]

/-- The bytes of a text are the bytes of the text in upper-case letters afterwards. -/
theorem decode?_map_upperAscii {bytes : Bytes} {text : String}
    (htext : decode? bytes = some text) :
    decode? (bytes.map Bytes.upperAscii) = some (text.map Char.toUpper) := by
  rw [decode?_eq_some_iff] at htext ⊢
  rw [htext, map_upperAscii_encode]

end Utf8

/-! ## Blocks -/

namespace Block

variable {block : Block} {length : Nat}

theorem length_map_upperAscii (hfits : length ≤ block.capacity) :
    ((block.contents.take length).map Bytes.upperAscii).length = length := by
  rw [List.length_map, List.length_take, block.length_contents, Nat.min_eq_left hfits]

/-- The letters in front are changed, and what stands behind them is not. -/
theorem contents_upper (hfits : length ≤ block.capacity) :
    (block.upper length hfits).contents =
      (block.contents.take length).map Bytes.upperAscii ++ block.contents.drop length := by
  simp only [upper, write, Bytes.splice, List.take_zero, List.nil_append, Nat.zero_add,
    length_map_upperAscii hfits]

theorem take_contents_upper (hfits : length ≤ block.capacity) :
    (block.upper length hfits).contents.take length =
      (block.contents.take length).map Bytes.upperAscii := by
  rw [contents_upper]
  exact List.take_left' (length_map_upperAscii hfits)

theorem getElem?_upper (hfits : length ≤ block.capacity) (index : Nat) :
    (block.upper length hfits).contents[index]? =
      block.contents[index]?.map fun byte =>
        if index < length then Bytes.upperAscii byte else byte := by
  have hlength := length_map_upperAscii hfits
  rw [contents_upper]
  by_cases hindex : index < length
  · rw [List.getElem?_append_left (by omega), List.getElem?_map, List.getElem?_take_of_lt hindex]
    simp only [if_pos hindex]
  · rw [List.getElem?_append_right (by omega), hlength, List.getElem?_drop]
    simp only [if_neg hindex, Option.map_id']
    congr 1
    omega

/-- A block is determined by its bytes. -/
theorem eq_of_contents {other : Block} (hcontents : block.contents = other.contents) :
    block = other := by
  have hcapacity : block.capacity = other.capacity := by
    rw [← block.length_contents, ← other.length_contents, hcontents]
  have hfootprint : block.footprint = other.footprint := by
    rw [footprint_eq_capacity, footprint_eq_capacity, hcapacity]
  cases block
  cases other
  subst hcapacity hcontents hfootprint
  rfl

/-- Letters that are in upper case already are left alone. -/
theorem upper_upper (hfits : length ≤ block.capacity)
    (hagain : length ≤ (block.upper length hfits).capacity) :
    (block.upper length hfits).upper length hagain = block.upper length hfits := by
  apply eq_of_contents
  apply List.ext_getElem?
  intro index
  rw [getElem?_upper hagain, getElem?_upper hfits, Option.map_map]
  congr 1
  funext byte
  by_cases hindex : index < length
  · simp only [Function.comp, if_pos hindex, Bytes.upperAscii_upperAscii]
  · simp only [Function.comp, if_neg hindex]

/-- Nothing is changed in an empty message. -/
theorem upper_zero : block.upper 0 (Nat.zero_le _) = block := by
  apply eq_of_contents
  rw [contents_upper, List.take_zero, List.drop_zero]
  rfl

/-- A message that ends at a zero byte ends there afterwards: there is none in front of it, and
it stands where it stood. -/
theorem exists_contents_upper (hfits : length ≤ block.capacity)
    (hzero : block.contents.firstNul? = some length) :
    ∃ rest, (block.upper length hfits).contents =
        (block.contents.take length).map Bytes.upperAscii ++ 0 :: rest ∧
      Bytes.firstNul? ((block.contents.take length).map Bytes.upperAscii) = none := by
  have hmem : (0 : UInt8) ∈ block.contents :=
    List.mem_of_getElem? (Bytes.getElem?_firstNul? hzero)
  obtain ⟨rest, hrest⟩ := Bytes.exists_untilNul_append_zero hmem
  have hbehind : block.contents.drop length = 0 :: rest := by
    rw [hrest]
    exact List.drop_left' (Bytes.length_untilNul hzero)
  refine ⟨rest, by rw [contents_upper, hbehind], ?_⟩
  apply Bytes.firstNul?_map_upperAscii
  rw [Bytes.take_firstNul? hzero]
  exact Bytes.firstNul?_untilNul _

theorem firstNul?_upper (hfits : length ≤ block.capacity)
    (hzero : block.contents.firstNul? = some length) :
    (block.upper length hfits).contents.firstNul? = some length := by
  obtain ⟨rest, hcontents, hnone⟩ := exists_contents_upper hfits hzero
  rw [hcontents, Bytes.firstNul?_append_zero hnone, length_map_upperAscii hfits]

theorem untilNul_upper (hfits : length ≤ block.capacity)
    (hzero : block.contents.firstNul? = some length) :
    (block.upper length hfits).contents.untilNul =
      (block.contents.take length).map Bytes.upperAscii := by
  obtain ⟨rest, hcontents, hnone⟩ := exists_contents_upper hfits hzero
  rw [hcontents, Bytes.untilNul_append_zero hnone]

end Block

/-! ## The exported function -/

namespace Entry

variable {σ : Type} {world : World σ} {machine : Machine σ} {address : Address} {block : Block}
  {length : Nat}

/-- Both equations of a lent message in one: an empty one has no letters to change. -/
theorem toUpper_run_terminated (world : World σ) (hfound : machine.heap.find? address = some block)
    (hnull : address ≠ 0) (hfits : length ≤ block.capacity)
    (hzero : block.contents.firstNul? = some length) :
    toUpper address world machine =
      (.ok (if length = 0 then 0 else address),
        machine.patch address (block.upper length hfits)) := by
  cases length with
  | zero =>
      rw [toUpper_run_empty hfound hnull hzero, Block.upper_zero, Machine.patch_self hfound]
      rfl
  | succ length =>
      rw [toUpper_run world hfound hnull hfits hzero, if_neg (Nat.succ_ne_zero length)]

/-- A message is put in upper-case letters where it stands: a byte in front of its terminator
that is a letter from a to z is changed, and no other byte, neither of its block nor of another
one.  The message ends where it ended and comes back, unless it is empty; nothing is released
and nothing printed.  What is in upper case already stays as it is, and if the bytes of the
message were those of a text, they are those of the same text with its letters replaced. -/
theorem letters_are_upper_case_in_place (world : World σ) (machine : Machine σ)
    (hnull : address ≠ 0) (hfound : machine.heap.find? address = some block)
    (hzero : block.contents.firstNul? = some length) :
    ∃ upper after,
      toUpper address world machine = (.ok (if length = 0 then 0 else address), after) ∧
      after.heap.find? address = some upper ∧ upper.capacity = block.capacity ∧
      (∀ index byte, block.contents[index]? = some byte →
        upper.contents[index]? =
          some (if index < length ∧ 97 ≤ byte ∧ byte ≤ 122 then byte - 32 else byte)) ∧
      upper.contents.firstNul? = some length ∧
      (∀ other, other ≠ address → after.heap.find? other = machine.heap.find? other) ∧
      after.journal = machine.journal ∧ after.host = machine.host ∧
      toUpper address world after = (.ok (if length = 0 then 0 else address), after) ∧
      ∀ text, Utf8.decode? (block.contents.take length) = some text →
        Utf8.decode? (upper.contents.take length) = some (text.map Char.toUpper) := by
  have hfits : length ≤ block.capacity := Nat.le_of_lt (Block.firstNul?_lt hzero)
  have hpatched : (machine.patch address (block.upper length hfits)).heap.find? address =
      some (block.upper length hfits) := Machine.find?_patch_self _ hfound
  refine ⟨block.upper length hfits, machine.patch address (block.upper length hfits),
    toUpper_run_terminated world hfound hnull hfits hzero, hpatched, rfl, ?_,
    Block.firstNul?_upper hfits hzero, ?_, rfl, rfl, ?_, ?_⟩
  · intro index byte hbyte
    rw [Block.getElem?_upper, hbyte, Option.map_some, Option.some.injEq]
    by_cases hindex : index < length
    · simp only [hindex, if_true, true_and]
      rfl
    · simp only [hindex, if_false, false_and]
  · intro other hother
    rw [Machine.find?_patch, if_neg hother]
  · -- the second time the block is given the bytes it has
    have hagain : length ≤ (block.upper length hfits).capacity := hfits
    rw [toUpper_run_terminated world hpatched hnull hagain (Block.firstNul?_upper hfits hzero),
      Block.upper_upper hfits hagain, Machine.patch_self hpatched]
  · intro text htext
    rw [Block.take_contents_upper]
    exact Utf8.decode?_map_upperAscii htext

/-- A letter, a character of two bytes, and a letter behind the terminator. -/
theorem a_word_is_upper_case_in_place :
    let word : Block := ⟨5, [0x61, 0xC3, 0xA9, 0, 0x7A], 13, rfl, rfl⟩
    let machine : Machine Recording := .start (Heap.empty.insert 8 word rfl) {}
    let world : World Recording :=
      ⟨SystemAllocator.refusing none, Recording.host 1 0, Recording.rounds 1⟩
    machine.heap.find? 8 = some word ∧ word.contents.firstNul? = some 3 ∧
    ∃ upper after,
      toUpper 8 world machine = (.ok 8, after) ∧ after.heap.find? 8 = some upper ∧
      upper.contents[0]? = some 0x41 ∧ upper.contents[2]? = some 0xA9 ∧
      upper.contents[4]? = some 0x7A ∧
      Utf8.decode? (upper.contents.take 3) = some "Aé" := by
  intro word machine world
  have hfound : machine.heap.find? 8 = some word := rfl
  have hzero : word.contents.firstNul? = some 3 := by decide
  obtain ⟨upper, after, hrun, hupper, -, hbytes, -, -, -, -, -, htext⟩ :=
    letters_are_upper_case_in_place world machine (by decide) hfound hzero
  have hword : "aé".map Char.toUpper = "Aé" := by decide +kernel
  rw [← hword]
  exact ⟨hfound, hzero, upper, after, hrun, hupper, hbytes 0 0x61 rfl, hbytes 2 0xA9 rfl,
    hbytes 4 0x7A rfl, htext "aé" (by decide +kernel)⟩

end Entry

end GuestHost

import GuestHost.Bytes

/-!
# Where a C string ends, and what a patch leaves

Facts about byte strings alone.  The first zero byte is found wherever there is
one (`exists_firstNul?_le`), and looking for it does not look any further
(`firstNul?_take`); the bytes before it are those that `untilNul` keeps
(`take_firstNul?`).  Patches laid side by side make up the whole (`splice_splice`).
-/

namespace GuestHost.Bytes

variable {bytes : Bytes} {index : Nat}

/-! ## The first zero byte -/

theorem firstNul?_cons (byte : UInt8) (rest : Bytes) :
    firstNul? (byte :: rest) = if byte = 0 then some 0 else (firstNul? rest).map (· + 1) := by
  simp [firstNul?, List.findIdx?_cons]

theorem firstNul?_eq_none_iff : bytes.firstNul? = none ↔ ∀ byte ∈ bytes, byte ≠ 0 := by
  simp [firstNul?, List.findIdx?_eq_none_iff]

theorem firstNul?_lt (hfound : bytes.firstNul? = some index) : index < bytes.length := by
  rw [firstNul?, List.findIdx?_eq_some_iff_getElem] at hfound
  exact hfound.1

/-- A zero byte stands where the first one is found. -/
theorem getElem?_firstNul? (hfound : bytes.firstNul? = some index) :
    bytes[index]? = some 0 := by
  rw [firstNul?, List.findIdx?_eq_some_iff_getElem] at hfound
  obtain ⟨hlt, hzero, -⟩ := hfound
  rw [List.getElem?_eq_getElem hlt, eq_of_beq hzero]

/-- Where a zero byte stands, the first one is there or before. -/
theorem exists_firstNul?_le (hzero : bytes[index]? = some 0) :
    ∃ first, bytes.firstNul? = some first ∧ first ≤ index := by
  induction bytes generalizing index with
  | nil => simp at hzero
  | cons byte rest ih =>
      rw [firstNul?_cons]
      by_cases hbyte : byte = 0
      · exact ⟨0, if_pos hbyte, Nat.zero_le _⟩
      · cases index with
        | zero => exact absurd (by simpa using hzero) hbyte
        | succ index =>
            obtain ⟨first, hfirst, hle⟩ := ih (by simpa using hzero)
            exact ⟨first + 1, by rw [if_neg hbyte, hfirst]; rfl, Nat.succ_le_succ hle⟩

/-- The bytes in front of the first zero byte. -/
theorem take_firstNul? (hfound : bytes.firstNul? = some index) :
    bytes.take index = bytes.untilNul := by
  induction bytes generalizing index with
  | nil => simp [firstNul?] at hfound
  | cons byte rest ih =>
      rw [firstNul?_cons] at hfound
      by_cases hbyte : byte = 0
      · rw [if_pos hbyte, Option.some.injEq] at hfound
        simp [← hfound, untilNul, hbyte]
      · rw [if_neg hbyte, Option.map_eq_some_iff] at hfound
        obtain ⟨first, hfirst, rfl⟩ := hfound
        have hrest : rest.take first = untilNul rest := ih hfirst
        simp only [List.take_succ_cons, hrest]
        simp [untilNul, hbyte]

/-- The first zero byte is found in every stretch that reaches behind it. -/
theorem firstNul?_take {count : Nat} (hfound : bytes.firstNul? = some index)
    (hcount : index < count) : firstNul? (bytes.take count) = some index := by
  have htake : firstNul? (bytes.take count) =
      (bytes.firstNul?).bind (Option.guard fun index => index < count) := List.findIdx?_take
  rw [htake, hfound]
  simp [Option.guard, hcount]

/-- Bytes without a zero byte belong to what stands in front of the first one. -/
theorem untilNul_append (hnone : bytes.firstNul? = none) (rest : Bytes) :
    untilNul (bytes ++ rest) = bytes ++ untilNul rest :=
  List.takeWhile_append_of_pos fun byte hbyte =>
    bne_iff_ne.mpr (firstNul?_eq_none_iff.mp hnone byte hbyte)

theorem untilNul_append_zero (hnone : bytes.firstNul? = none) (rest : Bytes) :
    untilNul (bytes ++ 0 :: rest) = bytes := by
  rw [untilNul_append hnone, untilNul, List.takeWhile_cons_of_neg (by decide), List.append_nil]

theorem firstNul?_append_zero (hnone : bytes.firstNul? = none) (rest : Bytes) :
    firstNul? (bytes ++ 0 :: rest) = some bytes.length := by
  rw [firstNul?] at hnone
  rw [firstNul?, List.findIdx?_append, hnone, Option.none_or, List.findIdx?_cons]
  simp

/-- What stands behind a zero byte is not needed to find where a C string ends. -/
theorem untilNul_take (hzero : bytes[index]? = some 0) :
    untilNul (bytes.take index) = bytes.untilNul := by
  induction bytes generalizing index with
  | nil => cases hzero
  | cons byte rest ih =>
      cases index with
      | zero =>
          obtain rfl : byte = 0 := Option.some.inj hzero
          rfl
      | succ index =>
          have hrest : untilNul (rest.take index) = untilNul rest := ih hzero
          rw [List.take_succ_cons]
          unfold untilNul at hrest ⊢
          rw [List.takeWhile_cons, List.takeWhile_cons, hrest]

/-- A zero byte follows on the bytes in front of the first one, if there is any. -/
theorem exists_untilNul_append_zero (hzero : 0 ∈ bytes) :
    ∃ rest, bytes = untilNul bytes ++ 0 :: rest := by
  induction bytes with
  | nil => cases hzero
  | cons byte bytes ih =>
      by_cases hbyte : byte = 0
      · exact ⟨bytes, by simp [untilNul, hbyte]⟩
      · obtain ⟨rest, hrest⟩ := ih ((List.mem_cons.mp hzero).resolve_left (Ne.symm hbyte))
        have hhead : untilNul (byte :: bytes) = byte :: untilNul bytes := by
          simp [untilNul, hbyte]
        refine ⟨rest, ?_⟩
        rw [hhead, List.cons_append]
        exact congrArg (byte :: ·) hrest

/-! ## Patches -/

/-- A patch of the whole length replaces everything. -/
theorem splice_zero {patch : Bytes} (hlength : bytes.length ≤ patch.length) :
    splice bytes 0 patch = patch := by
  simp [splice, List.drop_eq_nil_of_le hlength]

/-- Behind a patch everything stays as it was. -/
theorem getElem?_splice {offset : Nat} {patch : Bytes} (hfits : offset ≤ bytes.length)
    (hbehind : offset + patch.length ≤ index) :
    (splice bytes offset patch)[index]? = bytes[index]? := by
  have hlength : (bytes.take offset ++ patch).length = offset + patch.length := by
    rw [List.length_append, List.length_take, Nat.min_eq_left hfits]
  rw [splice, List.getElem?_append_right (by omega), List.getElem?_drop, hlength]
  congr 1
  omega

/-- Two patches side by side that make up the whole. -/
theorem splice_splice {first second : Bytes}
    (hlength : bytes.length = first.length + second.length) :
    splice (splice bytes 0 first) first.length second = first ++ second := by
  simp only [splice, List.take_zero, List.nil_append, Nat.zero_add, List.take_left']
  rw [List.drop_eq_nil_of_le (by simp; omega), List.append_nil]

end GuestHost.Bytes

import GuestHost.Memory.Linear
import GuestHost.Proofs.Bytes

/-!
# What stands in memory

Bytes *stand* at an address (`Holds`) if they are the ones that are read there, all of
them inside of memory.  What is written somewhere stands there afterwards
(`holds_overwrite`), and whatever stands apart from it still does (`Holds.overwrite`).

A C string ends at the first zero byte behind its start, and `nulFrom?_eq_some_iff` says
where that is in terms of what stands there.

Between two writes of the host the guest runs, and may change memory as it likes.
`Keeps` is all that is asked of it at times: memory does not shrink, and a stretch of
it stays as it is.
-/

namespace GuestHost.LinearMemory

variable {memory : LinearMemory} {start : Nat} {bytes : Bytes}

/-! ## Reading -/

/-- The bytes are those that are read at an address. -/
def Holds (memory : LinearMemory) (start : Nat) (bytes : Bytes) : Prop :=
  memory.slice? start bytes.length = some bytes

instance : Decidable (memory.Holds start bytes) :=
  inferInstanceAs (Decidable (_ = _))

theorem getElem?_slice (memory : LinearMemory) (start : Nat) {length index : Nat}
    (hindex : index < length) :
    (memory.slice start length)[index]? = some (memory.byteAt (start + index)) := by
  simp [slice, List.getElem?_range' hindex]

theorem slice?_eq_some_iff {length : Nat} :
    memory.slice? start length = some bytes ↔ bytes.length = length ∧ memory.Holds start bytes := by
  unfold Holds
  constructor
  · intro hslice
    have hlength : bytes.length = length := by
      unfold slice? at hslice
      split at hslice
      · rw [← Option.some.inj hslice, length_slice]
      · cases hslice
    exact ⟨hlength, hlength ▸ hslice⟩
  · rintro ⟨rfl, hholds⟩
    exact hholds

/-- Bytes stand at an address if they fit there and are the ones there, one by one. -/
theorem holds_iff : memory.Holds start bytes ↔ start + bytes.length ≤ memory.size ∧
    ∀ index (hindex : index < bytes.length), memory.byteAt (start + index) = bytes[index] := by
  unfold Holds slice?
  constructor
  · intro hholds
    split at hholds
    · next hfits =>
        refine ⟨hfits, fun index hindex => ?_⟩
        have hbyte := getElem?_slice memory start hindex
        rw [Option.some.inj hholds, List.getElem?_eq_getElem hindex] at hbyte
        exact (Option.some.inj hbyte).symm
    · cases hholds
  · rintro ⟨hfits, hbytes⟩
    rw [if_pos hfits]
    congr 1
    -- both are compared byte by byte, behind their ends as well
    apply List.ext_getElem?
    intro index
    by_cases hindex : index < bytes.length
    · rw [getElem?_slice _ _ hindex, hbytes index hindex, List.getElem?_eq_getElem hindex]
    · rw [List.getElem?_eq_none (by simpa using hindex),
        List.getElem?_eq_none (Nat.le_of_not_lt hindex)]

theorem holds_singleton {byte : UInt8} :
    memory.Holds start [byte] ↔ start < memory.size ∧ memory.byteAt start = byte := by
  rw [holds_iff]
  apply and_congr
  · exact Nat.succ_le_iff
  · simp

/-- What is read at an address stands there. -/
theorem holds_slice {length : Nat} (hfits : start + length ≤ memory.size) :
    memory.Holds start (memory.slice start length) := by
  rw [Holds, length_slice, slice?, if_pos hfits]

theorem Holds.fits (hholds : memory.Holds start bytes) :
    start + bytes.length ≤ memory.size :=
  (holds_iff.mp hholds).1

/-- Only one string of a given length stands at an address. -/
theorem Holds.unique {other : Bytes} (hholds : memory.Holds start bytes)
    (hother : memory.Holds start other) (hlength : bytes.length = other.length) :
    bytes = other := by
  unfold Holds at hholds hother
  rw [hlength, hother] at hholds
  exact (Option.some.inj hholds).symm

/-- Two strings stand side by side if each stands where it has to. -/
theorem holds_append {first second : Bytes} :
    memory.Holds start (first ++ second) ↔
      memory.Holds start first ∧ memory.Holds (start + first.length) second := by
  simp only [holds_iff, List.length_append]
  constructor
  · rintro ⟨hfits, hbytes⟩
    refine ⟨⟨by omega, fun index hindex => ?_⟩, ⟨by omega, fun index hindex => ?_⟩⟩
    · rw [hbytes index (by omega), List.getElem_append_left hindex]
    · rw [Nat.add_assoc, hbytes (first.length + index) (by omega),
        List.getElem_append_right (by omega)]
      congr 1
      omega
  · rintro ⟨⟨-, hfirst⟩, hfits, hsecond⟩
    refine ⟨by omega, fun index hindex => ?_⟩
    by_cases hinside : index < first.length
    · rw [hfirst index hinside, List.getElem_append_left hinside]
    · -- an index behind the first string is one into the second
      have hplace : start + index = start + first.length + (index - first.length) := by omega
      rw [hplace, hsecond (index - first.length) (by omega),
        List.getElem_append_right (by omega)]

theorem Holds.take (hholds : memory.Holds start bytes) (count : Nat) :
    memory.Holds start (bytes.take count) := by
  rw [← List.take_append_drop count bytes] at hholds
  exact (holds_append.mp hholds).1

/-- Of the bytes that stand there as many are read as are asked for. -/
theorem Holds.slice_min (hholds : memory.Holds start bytes) (count : Nat) :
    memory.slice start (min bytes.length count) = bytes.take count := by
  have hfits := hholds.fits
  refine (holds_slice (by omega)).unique (hholds.take count) ?_
  rw [length_slice, List.length_take, Nat.min_comm]

/-! ## C strings -/

/-- The search for a zero byte ends at the first one. -/
theorem searchNul_eq_some_iff {count found : Nat} : memory.searchNul count start = some found ↔
    start ≤ found ∧ found < start + count ∧ memory.byteAt found = 0 ∧
      ∀ address, start ≤ address → address < found → memory.byteAt address ≠ 0 := by
  induction count generalizing start with
  | zero =>
      simp only [searchNul]
      constructor
      · nofun
      · omega
  | succ count ih =>
      by_cases hzero : memory.byteAt start = 0
      · rw [searchNul, if_pos hzero, Option.some.injEq]
        constructor
        · rintro rfl
          exact ⟨Nat.le_refl _, by omega, hzero, fun address hlow hhigh => by omega⟩
        · rintro ⟨hstart, -, -, hbefore⟩
          refine Nat.le_antisymm hstart (Nat.le_of_not_lt fun hlt => ?_)
          exact hbefore start (Nat.le_refl _) hlt hzero
      · rw [searchNul, if_neg hzero, ih]
        constructor
        · rintro ⟨hstart, hend, hfound, hbefore⟩
          refine ⟨by omega, by omega, hfound, fun address hlow hhigh => ?_⟩
          by_cases haddress : address = start
          · rwa [haddress]
          · exact hbefore address (by omega) hhigh
        · rintro ⟨hstart, hend, hfound, hbefore⟩
          -- no zero byte stands at the start, so the one that is found is behind it
          have hne : found ≠ start := by
            rintro rfl
            exact hzero hfound
          exact ⟨by omega, by omega, hfound, fun address hlow hhigh =>
            hbefore address (by omega) hhigh⟩

/-- The first zero byte is where the C string ends that stands in front of it. -/
theorem nulFrom?_eq_some_iff {terminator : Nat} : memory.nulFrom? start = some terminator ↔
    ∃ text : Bytes, text.firstNul? = none ∧ memory.Holds start (text ++ [0]) ∧
      terminator = start + text.length := by
  simp only [nulFrom?, searchNul_eq_some_iff, holds_append, holds_singleton,
    Bytes.firstNul?_eq_none_iff]
  constructor
  · rintro ⟨hstart, hend, hfound, hbefore⟩
    have hplace : start + (terminator - start) = terminator := Nat.add_sub_cancel' hstart
    -- the text is whatever stands in front of the terminator
    refine ⟨memory.slice start (terminator - start), ?_, ⟨holds_slice (by omega), ?_⟩, ?_⟩
    · intro byte hbyte
      simp only [slice, List.mem_map, List.mem_range'_1] at hbyte
      obtain ⟨address, ⟨hlow, hhigh⟩, rfl⟩ := hbyte
      exact hbefore address hlow (by omega)
    · rw [length_slice, hplace]
      exact ⟨by omega, hfound⟩
    · rw [length_slice, hplace]
  · rintro ⟨text, hzero, ⟨hholds, hinside, hnul⟩, rfl⟩
    refine ⟨by omega, by omega, hnul, fun address hlow hhigh => ?_⟩
    have hindex : address - start < text.length := by omega
    have hbyte := (holds_iff.mp hholds).2 _ hindex
    rw [Nat.add_sub_cancel' hlow] at hbyte
    rw [hbyte]
    exact hzero _ (List.getElem_mem hindex)

/-! ## Writing -/

/-- What has been written stands where it was written. -/
theorem holds_overwrite (hfits : start + bytes.length ≤ memory.size) :
    (memory.overwrite start bytes).Holds start bytes :=
  holds_iff.mpr ⟨hfits, fun _ hindex => byteAt_overwrite_inside memory start hindex⟩

/-- Two stretches of memory, each with its start and its length, have no address in
common. -/
def Apart (start length place count : Nat) : Prop :=
  ∀ address, start ≤ address → address < start + length →
    address < place ∨ place + count ≤ address

theorem Apart.of_le {length place count : Nat}
    (hle : start + length ≤ place ∨ place + count ≤ start) : Apart start length place count := by
  intro address hstart hend
  omega

/-- What stands apart from a stretch that is written still stands. -/
theorem Holds.overwrite {place : Nat} {patch : Bytes} (hholds : memory.Holds start bytes)
    (hapart : Apart start bytes.length place patch.length) :
    (memory.overwrite place patch).Holds start bytes := by
  obtain ⟨hfits, hbytes⟩ := holds_iff.mp hholds
  refine holds_iff.mpr ⟨hfits, fun index hindex => ?_⟩
  rw [byteAt_overwrite_outside memory (hapart _ (Nat.le_add_right _ _) (by omega))]
  exact hbytes index hindex

/-! ## What the guest leaves alone -/

/-- Memory has not shrunk, and a stretch of it is as it was. -/
structure Keeps (before after : LinearMemory) (start length : Nat) : Prop where
  size : before.size ≤ after.size
  byteAt : ∀ address, start ≤ address → address < start + length →
    after.byteAt address = before.byteAt address

/-- A stretch is as it was if the same bytes are read there. -/
theorem Keeps.of_slice_eq {after : LinearMemory} {length : Nat} (hsize : memory.size ≤ after.size)
    (hslice : after.slice start length = memory.slice start length) :
    Keeps memory after start length where
  size := hsize
  byteAt := by
    intro address hstart hend
    have hindex : address - start < length := by omega
    have hbyte := congrArg (fun bytes : Bytes => bytes[address - start]?) hslice
    simp only [getElem?_slice _ _ hindex, Option.some.injEq] at hbyte
    rwa [Nat.add_sub_cancel' hstart] at hbyte

theorem Holds.of_keeps {after : LinearMemory} (hholds : memory.Holds start bytes)
    (hkeeps : Keeps memory after start bytes.length) : after.Holds start bytes := by
  obtain ⟨hfits, hbytes⟩ := holds_iff.mp hholds
  refine holds_iff.mpr ⟨Nat.le_trans hfits hkeeps.size, fun index hindex => ?_⟩
  rw [hkeeps.byteAt _ (by omega) (by omega)]
  exact hbytes index hindex

end GuestHost.LinearMemory

import GuestHost.Proofs.Memory.Access

/-!
# Where the reader of frames overflows

The payload of a frame stands four bytes behind its pointer, and the reader makes a
pointer of that address too, after it has read the header.  For the last four pointers
there is none.

Whether that matters depends on the size of memory.  A header can be read at one of these
pointers only if memory reaches to where the signed words end (`Overflows.le_size`), which is so
from 32768 pages on: half of the pages that a memory can have.  Below that the reader always
answers, and from there on there is a pointer in every memory whose header, unless it is
negative, ends the reader in a panic (`readFrame_eq_panic_iff`), also if the frame is empty
(`empty_frame_panics`).
-/

namespace GuestHost.LinearMemory

variable {memory : LinearMemory} {pointer : Int32} {cause : Panic}

/-- A second reading does not panic. -/
theorem mapError_ne_panic {α : Type} (outcome : Except AccessError α) :
    outcome.mapError Failure.error ≠ .error (.panic cause) := by
  cases outcome with
  | error error => nofun
  | ok value => nofun

/-- A header stands at a pointer, with no negative length in it, and the payload's pointer
would be beyond the largest one. -/
structure Overflows (memory : LinearMemory) (pointer : Int32) : Prop where
  beyond : Int32.maxValue.toInt < pointer.toInt + Frame.headerSize
  header : ∃ word : UInt32, memory.Holds pointer.toInt.toNat (Word.toBytes word) ∧
    0 ≤ word.toInt32.toInt

/-- These are the pointers at which the reader panics. -/
theorem readFrame_eq_panic_iff : memory.readFrame pointer = .error (.panic cause) ↔
    cause = .additionOverflow ∧ memory.Overflows pointer := by
  have hsmall : Frame.headerSize < 2 ^ 31 := by decide
  constructor
  · intro hpanic
    cases hread : memory.readBytes pointer (Int32.ofNat Frame.headerSize) with
    | error error =>
        rw [readFrame_of_error hread] at hpanic
        cases hpanic
    | ok head =>
        obtain ⟨start, word, hpointer, -, hhead⟩ := exists_word_of_readBytes hread
        have hstart : pointer.toInt.toNat = start := by
          rw [Word.toCount?_eq_some_iff.mp hpointer, Int.toNat_natCast]
        -- only the sum of the two pointers panics, and it is tried for a length without a sign
        rw [readFrame_of_word hpointer hhead] at hpanic
        split at hpanic
        · cases hpanic
        · next hnonneg =>
            split at hpanic
            · next hoverflow =>
                cases hpanic
                rw [Int32.lt_iff_toInt_lt, Int32.toInt_zero] at hnonneg
                exact ⟨rfl, (Word.add?_eq_none_iff hsmall).mp hoverflow, word, hstart ▸ hhead,
                  Int.not_lt.mp hnonneg⟩
            · exact absurd hpanic (mapError_ne_panic _)
  · rintro ⟨rfl, hoverflow, word, hhead, hlength⟩
    have hsize : (Frame.headerSize : Int) = 4 := rfl
    have hmax : Int32.maxValue.toInt = 2 ^ 31 - 1 := rfl
    have hpointer : Word.toCount? pointer = some pointer.toInt.toNat :=
      Word.toCount?_of_nonneg (by omega)
    have hnonneg : ¬ word.toInt32 < 0 := by
      rw [Int32.lt_iff_toInt_lt, Int32.toInt_zero]
      exact Int.not_lt.mpr hlength
    rw [readFrame_of_word hpointer hhead, if_neg hnonneg,
      (Word.add?_eq_none_iff hsmall).mpr hoverflow]

/-! ## Memories that are large enough -/

/-- Only zero bytes stand in a memory of zeros. -/
theorem holds_zeros {pages start : Nat} (count : Nat) (hfits : start + count ≤ pages * pageSize) :
    (zeros pages).Holds start (List.replicate count 0) := by
  apply holds_iff.mpr
  refine ⟨?_, fun index hindex => ?_⟩
  · rw [List.length_replicate]
    exact hfits
  · rw [List.getElem_replicate]
    rfl

/-- The header at which the reader overflows ends where the signed words do, or behind. -/
theorem Overflows.le_size (hoverflows : memory.Overflows pointer) : 2 ^ 31 ≤ memory.size := by
  obtain ⟨hbeyond, word, hhead, -⟩ := hoverflows
  have hfits := hhead.fits
  have hmax : Int32.maxValue.toInt = 2 ^ 31 - 1 := rfl
  have hsize : Frame.headerSize = 4 := rfl
  rw [Word.length_toBytes] at hfits
  omega

/-- In every memory of zeros that is large enough there is a frame without a payload at
which the reader overflows. -/
theorem overflows_zeros {pages : Nat} (hpages : 2 ^ 15 ≤ pages) :
    (zeros pages).Overflows 2147483644 := by
  have hpage : pages * pageSize = pages * 2 ^ 16 := rfl
  have hplace : (2147483644 : Int32).toInt = 2 ^ 31 - 4 := rfl
  have hzeros : Word.toBytes 0 = List.replicate 4 0 := rfl
  refine ⟨by decide, 0, ?_, by decide⟩
  rw [hzeros, hplace]
  apply holds_zeros
  omega

/-- The reader answers, with a payload or with an error, at all pointers but the last four, and
at these as well if the header is negative or does not lie in memory.  So below 32768 pages it
always answers; from there on it does not in a memory of zeros. -/
theorem frames_overflow_at_the_last_pointers (memory : LinearMemory) (pointer : Int32) :
    (((∃ payload, memory.readFrame pointer = .ok payload) ∨
        ∃ error, memory.readFrame pointer = .error (.error error)) ↔
      ¬ memory.Overflows pointer) ∧
    (∀ cause, memory.readFrame pointer = .error (.panic cause) ↔
      cause = .additionOverflow ∧ memory.Overflows pointer) ∧
    (memory.size < 2 ^ 15 * pageSize → ¬ memory.Overflows pointer) ∧
    ∀ pages, 2 ^ 15 ≤ pages → (zeros pages).Overflows 2147483644 := by
  refine ⟨?_, fun cause => readFrame_eq_panic_iff, ?_, fun pages => overflows_zeros⟩
  · constructor
    · rintro hanswer hoverflows
      have hpanic := readFrame_eq_panic_iff.mpr ⟨rfl, hoverflows⟩
      rcases hanswer with ⟨payload, hpayload⟩ | ⟨error, herror⟩
      · rw [hpanic] at hpayload
        cases hpayload
      · rw [hpanic] at herror
        cases herror
    · intro hnever
      match hread : memory.readFrame pointer with
      | .ok payload => exact .inl ⟨payload, rfl⟩
      | .error (.error error) => exact .inr ⟨error, rfl⟩
      | .error (.panic cause) => exact absurd (readFrame_eq_panic_iff.mp hread).2 hnever
  · intro hsmall hoverflows
    have hpage : 2 ^ 15 * pageSize = 2 ^ 31 := rfl
    exact absurd hoverflows.le_size (by omega)

/-- Four zero bytes at the end of a memory of 32768 pages are an empty frame, with which there is
nothing wrong, and the reader panics. -/
theorem empty_frame_panics :
    (zeros 32768).readFrame 2147483644 = .error (.panic .additionOverflow) ∧
      Frame.payload ((zeros 32768).slice 2147483644 4) = .ok [] ∧
      ¬ ∀ (pages : Nat) (memory : LinearMemory) (pointer : Int32), pages ≤ 65536 →
        memory.size = pages * pageSize →
        ∀ cause, memory.readFrame pointer ≠ .error (.panic cause) := by
  have hpanic : (zeros 32768).readFrame 2147483644 = .error (.panic .additionOverflow) :=
    readFrame_eq_panic_iff.mpr ⟨rfl, overflows_zeros (by decide)⟩
  refine ⟨hpanic, rfl, fun hnever => ?_⟩
  exact hnever 32768 (zeros 32768) 2147483644 (by decide) rfl .additionOverflow hpanic

end GuestHost.LinearMemory

import GuestHost.Memory.Access
import GuestHost.Proofs.Frame
import GuestHost.Proofs.Memory.Linear

/-!
# What the readers of memory answer

Every reader is given a pointer as a signed word, checks it, and answers what stands
there.  So a reader succeeds exactly if its pointer is no negative number and what it
reads stands at that address, all of it inside of memory: `readBytes_eq_ok_iff`,
`readCString_eq_ok_iff`, `readDescriptor_eq_ok_iff`.

The reader of frames adds to its pointer, and `readFrame_of_word` says what becomes of that.
Where the sum is a signed word, it is a reader like the others (`readFrame_eq_ok_iff`).
-/

namespace GuestHost

/-! ## Descriptors in bytes -/

namespace Descriptor

variable {descriptor : Descriptor} {bytes : Bytes}

theorem ofBytes?_toBytes (descriptor : Descriptor) :
    ofBytes? descriptor.toBytes = some descriptor := by
  have hpointer : Word.ofBytes _ _ _ _ = descriptor.pointer :=
    Option.some.inj (Word.first?_toBytes descriptor.pointer [])
  have hlength : Word.ofBytes _ _ _ _ = descriptor.length :=
    Option.some.inj (Word.first?_toBytes descriptor.length [])
  simp only [toBytes, Word.toBytes, List.cons_append, List.nil_append, ofBytes?, hpointer, hlength]

/-- Eight bytes are a descriptor's, and no other number of bytes is. -/
theorem ofBytes?_eq_some_iff : ofBytes? bytes = some descriptor ↔ bytes = descriptor.toBytes := by
  constructor
  · intro hdescriptor
    unfold ofBytes? at hdescriptor
    split at hdescriptor
    · obtain rfl := Option.some.inj hdescriptor
      simp only [toBytes, Word.toBytes_ofBytes, List.cons_append, List.nil_append]
    · cases hdescriptor
  · rintro rfl
    exact ofBytes?_toBytes descriptor

theorem toBytes_injective {other : Descriptor} (hbytes : descriptor.toBytes = other.toBytes) :
    descriptor = other := by
  have hread := ofBytes?_toBytes descriptor
  rw [hbytes, ofBytes?_toBytes] at hread
  exact (Option.some.inj hread).symm

theorem exists_of_length (hlength : bytes.length = size) :
    ∃ descriptor : Descriptor, bytes = descriptor.toBytes := by
  match bytes, hlength with
  | [p₀, p₁, p₂, p₃, l₀, l₁, l₂, l₃], _ =>
      exact ⟨_, ofBytes?_eq_some_iff.mp rfl⟩

end Descriptor

namespace LinearMemory

variable {memory after : LinearMemory} {pointer length : Int32} {start : Nat} {bytes : Bytes}

/-! ## Bytes -/

/-- Bytes are read exactly where they stand, pointer and length being counts. -/
theorem readBytes_eq_ok_iff : memory.readBytes pointer length = .ok bytes ↔
    ∃ start, Word.toCount? pointer = some start ∧ Word.toCount? length = some bytes.length ∧
      memory.Holds start bytes := by
  unfold readBytes offset
  cases Word.toCount? pointer with
  | none => simp [bind, Except.bind]
  | some start =>
      cases Word.toCount? length with
      | none => simp [bind, Except.bind]
      | some count =>
          simp only [bind, Except.bind, Option.some.injEq, exists_eq_left']
          cases hslice : memory.slice? start count with
          | none =>
              have habsent : ¬ (count = bytes.length ∧ memory.Holds start bytes) := by
                rintro ⟨rfl, hholds⟩
                rw [Holds, hslice] at hholds
                cases hholds
              simpa using habsent
          | some found =>
              -- what is found is the only string of its length that stands there
              obtain ⟨rfl, hfound⟩ := slice?_eq_some_iff.mp hslice
              simp only [Except.ok.injEq]
              constructor
              · rintro rfl
                exact ⟨rfl, hfound⟩
              · rintro ⟨hlength, hholds⟩
                exact hfound.unique hholds hlength

/-- Bytes are written wherever they fit, and nothing else changes. -/
theorem writeAt_eq_ok_iff : memory.writeAt pointer bytes = .ok after ↔
    ∃ start, Word.toCount? pointer = some start ∧ start + bytes.length ≤ memory.size ∧
      after = memory.overwrite start bytes := by
  unfold writeAt offset
  cases Word.toCount? pointer with
  | none => simp [bind, Except.bind]
  | some start =>
      simp only [bind, Except.bind, overwrite?, Option.some.injEq, exists_eq_left']
      by_cases hfits : start + bytes.length ≤ memory.size
      · simp [hfits, eq_comm]
      · simp [hfits]

/-! ## C strings -/

/-- A C string is read exactly where one stands, and cut after that. -/
theorem readCString_eq_ok_iff {cap : Nat} : memory.readCString pointer cap = .ok bytes ↔
    ∃ (start : Nat) (text : Bytes), Word.toCount? pointer = some start ∧
      text.firstNul? = none ∧ memory.Holds start (text ++ [0]) ∧ bytes = text.take cap := by
  unfold readCString offset
  cases Word.toCount? pointer with
  | none => simp [bind, Except.bind]
  | some start =>
      simp only [bind, Except.bind, Option.some.injEq]
      constructor
      · intro hread
        split at hread
        · cases hread
        · split at hread
          · cases hread
          · next terminator hfound =>
              -- the string is what stands in front of the first zero byte
              obtain ⟨text, hzero, hholds, rfl⟩ := nulFrom?_eq_some_iff.mp hfound
              refine ⟨start, text, rfl, hzero, hholds, ?_⟩
              rw [← Except.ok.inj hread, Nat.add_sub_cancel_left,
                (holds_append.mp hholds).1.slice_min]
      · rintro ⟨_, text, rfl, hzero, hholds, rfl⟩
        have hfits := hholds.fits
        have hfound := nulFrom?_eq_some_iff.mpr ⟨text, hzero, hholds, rfl⟩
        rw [if_neg (by omega), hfound]
        simp only [Nat.add_sub_cancel_left, (holds_append.mp hholds).1.slice_min]

/-! ## Frames -/

/-- What the word at a pointer comes to, if it is taken for the header of a frame. -/
theorem readFrame_of_word {word : UInt32} (hpointer : Word.toCount? pointer = some start)
    (hhead : memory.Holds start (Word.toBytes word)) :
    memory.readFrame pointer =
      if word.toInt32 < 0 then .error (.error (.negativeHeader word.toInt32))
      else
        match Word.add? pointer (Int32.ofNat Frame.headerSize) with
        | none => .error (.panic .additionOverflow)
        | some behind => (memory.readBytes behind word.toInt32).mapError .error := by
  have hread : (memory.readBytes pointer (Int32.ofNat Frame.headerSize)).mapError Failure.error =
      .ok (Word.toBytes word) := by
    rw [readBytes_eq_ok_iff.mpr ⟨start, hpointer, rfl, hhead⟩]
    rfl
  have hfirst : Word.first? (Word.toBytes word) = some word := Word.first?_toBytes word []
  unfold readFrame
  rw [hread]
  cases Word.add? pointer (Int32.ofNat Frame.headerSize) <;>
    simp only [bind, Except.bind, hfirst]

/-- Where no four bytes can be read there is no frame. -/
theorem readFrame_of_error {error : AccessError}
    (hread : memory.readBytes pointer (Int32.ofNat Frame.headerSize) = .error error) :
    memory.readFrame pointer = .error (.error error) := by
  unfold readFrame
  rw [hread]
  rfl

/-- A word stands where the header of a frame can be read. -/
theorem exists_word_of_readBytes {head : Bytes}
    (hread : memory.readBytes pointer (Int32.ofNat Frame.headerSize) = .ok head) :
    ∃ start word, Word.toCount? pointer = some start ∧ head = Word.toBytes word ∧
      memory.Holds start (Word.toBytes word) := by
  obtain ⟨start, hpointer, hlength, hholds⟩ := readBytes_eq_ok_iff.mp hread
  obtain ⟨word, rfl⟩ := Word.exists_of_length (Option.some.inj hlength).symm
  exact ⟨start, word, hpointer, rfl, hholds⟩

/-- The payload of a frame that stands at a pointer, unless the payload's own pointer
would be no signed word any more. -/
theorem readFrame_of_holds {payload : Bytes} (hpointer : Word.toCount? pointer = some start)
    (hroom : start + Frame.headerSize < 2 ^ 31)
    (hlength : Word.toCount? length = some payload.length)
    (hholds : memory.Holds start (Word.toBytes length.toUInt32 ++ payload)) :
    memory.readFrame pointer = .ok payload := by
  obtain ⟨hheader, hpayload⟩ := holds_append.mp hholds
  have hnonneg : ¬ length < 0 := by
    rw [Int32.lt_iff_toInt_lt, Word.toCount?_eq_some_iff.mp hlength, Int32.toInt_zero]
    omega
  have hbehind : Word.toCount? (Int32.ofNat (start + Frame.headerSize)) =
      some (start + Frame.headerSize) := Word.toCount?_ofNat hroom
  rw [readFrame_of_word hpointer hheader, Int32.toInt32_toUInt32, if_neg hnonneg,
    Word.add?_of_toCount? hpointer hroom]
  dsimp only
  rw [readBytes_eq_ok_iff.mpr ⟨_, hbehind, hlength, hpayload⟩]
  rfl

/-- A frame is read in two steps, the second one behind the first. -/
theorem readFrame_eq_ok {payload : Bytes} (hread : memory.readFrame pointer = .ok payload) :
    ∃ word behind,
      memory.readBytes pointer (Int32.ofNat Frame.headerSize) = .ok (Word.toBytes word) ∧
      Word.add? pointer (Int32.ofNat Frame.headerSize) = some behind ∧
      memory.readBytes behind word.toInt32 = .ok payload := by
  cases hheader : memory.readBytes pointer (Int32.ofNat Frame.headerSize) with
  | error error =>
      rw [readFrame_of_error hheader] at hread
      cases hread
  | ok head =>
      obtain ⟨start, word, hpointer, rfl, hholds⟩ := exists_word_of_readBytes hheader
      rw [readFrame_of_word hpointer hholds] at hread
      split at hread
      · cases hread
      · split at hread
        · cases hread
        · next behind hbehind =>
            cases hrest : memory.readBytes behind word.toInt32 with
            | error error =>
                rw [hrest] at hread
                cases hread
            | ok found =>
                rw [hrest] at hread
                cases hread
                exact ⟨word, behind, rfl, hbehind, hrest⟩

/-- A frame is read exactly where it stands, unless the payload's own pointer would be no
signed word any more. -/
theorem readFrame_eq_ok_iff {payload : Bytes} (hpointer : Word.toCount? pointer = some start)
    (hroom : start + Frame.headerSize < 2 ^ 31) :
    memory.readFrame pointer = .ok payload ↔
      ∃ head, Frame.header payload.length = .ok head ∧ memory.Holds start (head ++ payload) := by
  constructor
  · intro hread
    obtain ⟨word, behind, hhead, hsum, hrest⟩ := readFrame_eq_ok hread
    -- the two steps read next to each other, so what they read stands side by side
    obtain ⟨place, hplace, -, hstands⟩ := readBytes_eq_ok_iff.mp hhead
    obtain rfl : start = place := Option.some.inj (hpointer.symm.trans hplace)
    obtain ⟨next, hnext, hcount, hpayload⟩ := readBytes_eq_ok_iff.mp hrest
    rw [Word.add?_of_toCount? hpointer hroom] at hsum
    obtain rfl := Option.some.inj hsum
    obtain rfl : start + Frame.headerSize = next :=
      Option.some.inj ((Word.toCount?_ofNat hroom).symm.trans hnext)
    refine ⟨Word.toBytes word, ?_, holds_append.mpr ⟨hstands, hpayload⟩⟩
    rw [Frame.header_of_toCount? hcount, UInt32.toUInt32_toInt32]
  · rintro ⟨head, hheader, hholds⟩
    obtain ⟨word, hcount, rfl⟩ := Frame.header_eq_ok_iff.mp hheader
    exact readFrame_of_holds hpointer hroom hcount hholds

/-! ## Descriptors -/

/-- A descriptor is read exactly where its eight bytes stand. -/
theorem readDescriptor_eq_ok_iff {descriptor : Descriptor} :
    memory.readDescriptor pointer = .ok descriptor ↔
      ∃ start, Word.toCount? pointer = some start ∧ memory.Holds start descriptor.toBytes := by
  have hsize : Word.toCount? (Int32.ofNat Descriptor.size) = some Descriptor.size := rfl
  unfold readDescriptor
  cases hread : memory.readBytes pointer (Int32.ofNat Descriptor.size) with
  | error error =>
      simp only [bind, Except.bind]
      constructor
      · nofun
      · rintro ⟨start, hpointer, hholds⟩
        rw [readBytes_eq_ok_iff.mpr ⟨start, hpointer, hsize, hholds⟩] at hread
        cases hread
  | ok bytes =>
      obtain ⟨start, hpointer, hlength, hholds⟩ := readBytes_eq_ok_iff.mp hread
      obtain ⟨found, rfl⟩ :=
        Descriptor.exists_of_length (Option.some.inj (hlength.symm.trans hsize))
      simp only [bind, Except.bind, Descriptor.ofBytes?_toBytes, Except.ok.injEq]
      constructor
      · rintro rfl
        exact ⟨start, hpointer, hholds⟩
      · rintro ⟨other, hother, hstands⟩
        obtain rfl : start = other := Option.some.inj (hpointer.symm.trans hother)
        exact Descriptor.toBytes_injective (hholds.unique hstands rfl)

end LinearMemory

end GuestHost

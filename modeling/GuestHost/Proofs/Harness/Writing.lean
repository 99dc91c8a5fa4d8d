import GuestHost.Proofs.Harness.Runs
import GuestHost.Proofs.Text.Utf8
import GuestHost.Session.Memory

/-!
# Writing into a guest's memory

The host writes only where a pointer tells it to, and the pointer may be anything.  So
there are two questions about every write: whether it takes place, and what memory is
afterwards.

`Written` answers the second one.  The bytes stand at the pointer, every other byte is what
it was, and so whatever reader fits the bytes reads them back.  As to the first, a write
takes place exactly if the pointer is no negative number and all the bytes lie inside of
memory (`write_run_room`); if it does not, memory is as it was (`write_run_outside`).  Bytes
for which the guest has to allocate memory first are written on the same terms, except that the
null pointer is a refusal (`Writes`, which `writeBytes_writes` proves of every answer).
-/

namespace GuestHost

namespace LinearMemory

variable {memory after : LinearMemory} {pointer : Int32} {bytes : Bytes}

/-- There are so many bytes at a pointer, all of them inside of memory. -/
def HasRoom (memory : LinearMemory) (pointer : Int32) (length : Nat) : Prop :=
  0 ≤ pointer.toInt ∧ pointer.toInt + length ≤ memory.size

instance {length : Nat} : Decidable (memory.HasRoom pointer length) :=
  inferInstanceAs (Decidable (_ ∧ _))

/-- Between two memories the bytes at a pointer have been written, and no others. -/
structure Written (before after : LinearMemory) (pointer : Int32) (bytes : Bytes) : Prop where
  nonneg : 0 ≤ pointer.toInt
  size : after.size = before.size
  holds : after.Holds pointer.toInt.toNat bytes
  outside : ∀ address : Nat,
    address < pointer.toInt.toNat ∨ pointer.toInt.toNat + bytes.length ≤ address →
      after.byteAt address = before.byteAt address

theorem HasRoom.written (hroom : memory.HasRoom pointer bytes.length) :
    Written memory (memory.overwrite pointer.toInt.toNat bytes) pointer bytes where
  nonneg := hroom.1
  size := rfl
  holds := by
    obtain ⟨hnonneg, hfits⟩ := hroom
    apply holds_overwrite
    omega
  outside := fun _ houtside => byteAt_overwrite_outside memory houtside

namespace Written

theorem toCount? (hwritten : Written memory after pointer bytes) :
    Word.toCount? pointer = some pointer.toInt.toNat :=
  Word.toCount?_of_nonneg hwritten.nonneg

theorem readBytes (hwritten : Written memory after pointer bytes)
    (hsize : bytes.length < 2 ^ 31) :
    after.readBytes pointer (Int32.ofNat bytes.length) = .ok bytes := by
  apply readBytes_eq_ok_iff.mpr
  exact ⟨_, hwritten.toCount?, Word.toCount?_ofNat hsize, hwritten.holds⟩

/-- A C string is read up to its terminator, whatever stands behind that. -/
theorem readCString {text : Bytes} (hwritten : Written memory after pointer (text ++ [0]))
    (hzero : text.firstNul? = none) (cap : Nat) :
    after.readCString pointer cap = .ok (text.take cap) := by
  apply readCString_eq_ok_iff.mpr
  exact ⟨_, text, hwritten.toCount?, hzero, hwritten.holds, rfl⟩

theorem readDescriptor {descriptor : Descriptor}
    (hwritten : Written memory after pointer descriptor.toBytes) :
    after.readDescriptor pointer = .ok descriptor := by
  apply readDescriptor_eq_ok_iff.mpr
  exact ⟨_, hwritten.toCount?, hwritten.holds⟩

end Written

end LinearMemory

namespace Harness

open LinearMemory (HasRoom Written)

variable {γ : Type} {program : GuestProgram γ} {inst final : Instance γ} {state : GuestState γ}
  {pointer : Int32} {bytes : Bytes} {text : String} {descriptor : Descriptor}

/-! ## At a pointer -/

theorem write_run_room (hroom : inst.state.memory.HasRoom pointer bytes.length) :
    writeBytes.write pointer bytes program inst =
      (.ok (), inst.put pointer.toInt.toNat bytes) := by
  obtain ⟨hnonneg, hfits⟩ := hroom
  apply write_run (Word.toCount?_of_nonneg hnonneg)
  omega

/-- What has no room is not written, and nothing else is. -/
theorem write_run_outside (program : GuestProgram γ)
    (hroom : ¬ inst.state.memory.HasRoom pointer bytes.length) :
    ∃ error, writeBytes.write pointer bytes program inst =
      (.error (.error (.access error)), inst) := by
  unfold writeBytes.write
  cases hwrite : inst.state.memory.writeAt pointer bytes with
  | error error => exact ⟨error, rfl⟩
  | ok memory =>
      obtain ⟨start, hpointer, hfits, -⟩ := LinearMemory.writeAt_eq_ok_iff.mp hwrite
      have hvalue := Word.toCount?_eq_some_iff.mp hpointer
      refine absurd ?_ hroom
      unfold HasRoom
      omega

/-- A descriptor is written where it has room, and read there afterwards. -/
theorem writeDescriptor_written (program : GuestProgram γ) (descriptor : Descriptor)
    (hroom : inst.state.memory.HasRoom pointer Descriptor.size) :
    ∃ final, writeDescriptor pointer descriptor program inst = (.ok (), final) ∧
      final.calls = inst.calls ∧
      Written inst.state.memory final.state.memory pointer descriptor.toBytes ∧
      final.state.memory.readDescriptor pointer = .ok descriptor := by
  have hwritten : Written inst.state.memory _ pointer descriptor.toBytes := HasRoom.written hroom
  exact ⟨_, write_run_room hroom, rfl, hwritten, hwritten.readDescriptor⟩

/-! ## At a pointer that the guest has answered -/

section Allocating

variable (hsize : bytes.length < 2 ^ 31)

include hsize

theorem writeBytes_run_trapped
    (hmalloc : program.invoke Export.malloc [Int32.ofNat bytes.length] inst.state =
      (.error .trap, state)) :
    writeBytes bytes program inst = (.error (.error .allocationTrapped),
      inst.called Export.malloc [Int32.ofNat bytes.length] state) := by
  have hword : Word.ofCount? bytes.length = some (Int32.ofNat bytes.length) := if_pos hsize
  rw [writeBytes, hword]
  exact Attempt.bind_of_error (invoke_run_trap hmalloc _)

theorem writeBytes_run_null
    (hmalloc : program.invoke Export.malloc [Int32.ofNat bytes.length] inst.state =
      (.ok 0, state)) :
    writeBytes bytes program inst =
      (.error (.error (.allocationRefused (Int32.ofNat bytes.length))),
        inst.called Export.malloc [Int32.ofNat bytes.length] state) := by
  have hword : Word.ofCount? bytes.length = some (Int32.ofNat bytes.length) := if_pos hsize
  rw [writeBytes, hword]
  simp only
  rw [Attempt.bind_of_ok (invoke_run hmalloc _)]
  rfl

theorem writeBytes_run_outside
    (hmalloc : program.invoke Export.malloc [Int32.ofNat bytes.length] inst.state =
      (.ok pointer, state))
    (hnull : pointer ≠ 0) (hroom : ¬ state.memory.HasRoom pointer bytes.length) :
    ∃ error, writeBytes bytes program inst = (.error (.error (.access error)),
      inst.called Export.malloc [Int32.ofNat bytes.length] state) := by
  have hword : Word.ofCount? bytes.length = some (Int32.ofNat bytes.length) := if_pos hsize
  have hwrite : ∃ error, writeBytes.write pointer bytes program
      (inst.called Export.malloc [Int32.ofNat bytes.length] state) =
        (.error (.error (.access error)), _) := write_run_outside program hroom
  obtain ⟨error, hwrite⟩ := hwrite
  refine ⟨error, ?_⟩
  rw [writeBytes, hword]
  simp only
  rw [Attempt.bind_of_ok (invoke_run hmalloc _), if_neg hnull, Attempt.bind_of_error hwrite]

end Allocating

/-- How writing bytes ends, by what the guest has answered for them.  The guest is asked
once, for as many bytes as there are, and they are written if it has answered a pointer
other than null at which they have room. -/
structure Writes (inst final : Instance γ) (answer : Except Trap Int32) (bytes : Bytes)
    (outcome : Except (Failure HarnessError) Int32) : Prop where
  calls : final.calls = ⟨Export.malloc, [Int32.ofNat bytes.length]⟩ :: inst.calls
  ok_iff : ∀ pointer, outcome = .ok pointer ↔
    answer = .ok pointer ∧ 0 < pointer.toInt ∧
      pointer.toInt + bytes.length ≤ inst.state.memory.size
  written : ∀ pointer, outcome = .ok pointer →
    Written inst.state.memory final.state.memory pointer bytes ∧
      final.state.memory.readBytes pointer (Int32.ofNat bytes.length) = .ok bytes
  failed : ∀ failure, outcome = .error failure →
    (∃ error, failure = .error error) ∧ final.state.memory = inst.state.memory

/-- Where the guest has not answered a pointer with room, nothing is written. -/
theorem Writes.of_error {answer : Except Trap Int32} {error : HarnessError}
    (hmemory : state.memory = inst.state.memory)
    (hanswer : ∀ pointer, answer = .ok pointer → ¬ (0 < pointer.toInt ∧
      pointer.toInt + bytes.length ≤ inst.state.memory.size)) :
    Writes inst (inst.called Export.malloc [Int32.ofNat bytes.length] state) answer bytes
      (.error (.error error)) where
  calls := rfl
  ok_iff := fun pointer =>
    ⟨nofun, fun ⟨hpointer, hroom⟩ => absurd hroom (hanswer pointer hpointer)⟩
  written := nofun
  failed := by
    rintro _ ⟨⟩
    exact ⟨⟨error, rfl⟩, hmemory⟩

theorem Writes.of_allocates (hsize : bytes.length < 2 ^ 31)
    (hmemory : state.memory = inst.state.memory)
    (hmalloc : Allocates program inst.state bytes.length pointer state) :
    Writes inst ((inst.called Export.malloc [Int32.ofNat bytes.length] state).put
      pointer.toInt.toNat bytes) (.ok pointer) bytes (.ok pointer) where
  calls := rfl
  ok_iff := by
    have hpositive := hmalloc.positive
    have hfits := hmalloc.fits
    -- allocating has not changed memory, so the room was there before
    rw [hmemory] at hfits
    intro other
    constructor
    · rintro ⟨⟩
      exact ⟨rfl, hpositive, by omega⟩
    · rintro ⟨⟨⟩, -⟩
      rfl
  written := by
    rintro _ ⟨⟩
    have hpositive := hmalloc.positive
    have hfits := hmalloc.fits
    have hroom : inst.state.memory.HasRoom pointer bytes.length :=
      ⟨Int.le_of_lt hpositive, by rw [← hmemory]; omega⟩
    have hwritten := hroom.written
    rw [← hmemory] at hwritten ⊢
    exact ⟨hwritten, hwritten.readBytes hsize⟩
  failed := nofun

/-- Whatever the guest answers, writing comes to an end of the one kind or the other. -/
theorem writeBytes_writes {answer : Except Trap Int32} (hsize : bytes.length < 2 ^ 31)
    (hmalloc : program.invoke Export.malloc [Int32.ofNat bytes.length] inst.state =
      (answer, state))
    (hmemory : state.memory = inst.state.memory) :
    ∃ outcome final, writeBytes bytes program inst = (outcome, final) ∧
      Writes inst final answer bytes outcome := by
  cases answer with
  | error cause => exact ⟨_, _, writeBytes_run_trapped hsize hmalloc, .of_error hmemory nofun⟩
  | ok pointer =>
      by_cases hnull : pointer = 0
      · -- the null pointer is no place to write to, also for no bytes at all
        subst hnull
        refine ⟨_, _, writeBytes_run_null hsize hmalloc, .of_error hmemory ?_⟩
        rintro _ ⟨⟩ ⟨hpositive, -⟩
        exact absurd hpositive (by decide)
      · by_cases hroom : state.memory.HasRoom pointer bytes.length
        · obtain ⟨hnonneg, hfits⟩ := hroom
          have hvalue : pointer.toInt ≠ 0 := fun hzero => hnull (Int32.toInt.inj hzero)
          have hallocates : Allocates program inst.state bytes.length pointer state :=
            ⟨hmalloc, by omega, by omega⟩
          exact ⟨_, _, writeBytes_run hsize hallocates, .of_allocates hsize hmemory hallocates⟩
        · obtain ⟨error, hrun⟩ := writeBytes_run_outside hsize hmalloc hnull hroom
          refine ⟨_, _, hrun, .of_error hmemory ?_⟩
          rintro _ ⟨⟩ ⟨hpositive, hfits⟩
          rw [← hmemory] at hfits
          exact hroom ⟨Int.le_of_lt hpositive, hfits⟩

/-! ## Texts -/

/-- A text with U+0000 in it is not passed to the guest at all. -/
theorem writeCString_run_interior (program : GuestProgram γ) (inst : Instance γ)
    (hnul : '\x00' ∈ text.toList) :
    writeCString text program inst = (.error (.error .interiorNul), inst) := by
  rw [writeCString, if_pos (List.contains_iff_mem.mpr hnul)]
  rfl

theorem writeCString_eq (hnul : '\x00' ∉ text.toList) :
    (writeCString text : Harness γ Int32) = writeBytes (Utf8.encode text ++ [0]) := by
  have hcontains : ¬ text.toList.contains '\x00' = true := by
    rwa [List.contains_iff_mem]
  rw [writeCString, if_neg hcontains]

/-- Wherever bytes have been written, they stand. -/
theorem written_of_writeBytes (hrun : writeBytes bytes program inst = (.ok pointer, final)) :
    ∃ before, Written before final.state.memory pointer bytes := by
  obtain ⟨middle, -, hwrite⟩ := writeBytes_eq_ok hrun
  by_cases hroom : middle.state.memory.HasRoom pointer bytes.length
  · rw [write_run_room hroom] at hwrite
    cases hwrite
    exact ⟨_, hroom.written⟩
  · obtain ⟨error, hrefused⟩ := write_run_outside program hroom
    rw [hrefused] at hwrite
    cases hwrite

/-! ## What is written is read -/

/-- Bytes, texts and descriptors are written where there is room for them, and nowhere else,
and are read back from there; what has no room leaves memory as it was.  A text is written
like its bytes and a zero byte after them. -/
theorem what_is_written_is_read (program : GuestProgram γ) (inst : Instance γ) :
    (∀ (bytes : Bytes) (answer : Except Trap Int32) (state : GuestState γ),
      bytes.length < 2 ^ 31 →
      program.invoke Export.malloc [Int32.ofNat bytes.length] inst.state = (answer, state) →
      state.memory = inst.state.memory →
      ∃ outcome final, writeBytes bytes program inst = (outcome, final) ∧
        Writes inst final answer bytes outcome) ∧
    (∀ text : String, '\x00' ∈ text.toList →
      writeCString text program inst = (.error (.error .interiorNul), inst)) ∧
    (∀ text : String, '\x00' ∉ text.toList →
      writeCString text program inst = writeBytes (Utf8.encode text ++ [0]) program inst ∧
      ∀ pointer final, writeCString text program inst = (.ok pointer, final) →
        ∀ cap, final.state.memory.readCString pointer cap =
          .ok ((Utf8.encode text).take cap)) ∧
    (∀ (pointer : Int32) (descriptor : Descriptor),
      (inst.state.memory.HasRoom pointer Descriptor.size →
        ∃ final, writeDescriptor pointer descriptor program inst = (.ok (), final) ∧
          final.calls = inst.calls ∧
          Written inst.state.memory final.state.memory pointer descriptor.toBytes ∧
          final.state.memory.readDescriptor pointer = .ok descriptor) ∧
      (¬ inst.state.memory.HasRoom pointer Descriptor.size →
        ∃ error, writeDescriptor pointer descriptor program inst =
          (.error (.error (.access error)), inst))) ∧
    (∀ descriptor : Descriptor, Descriptor.ofBytes? descriptor.toBytes = some descriptor) ∧
    ∀ bytes : Bytes, bytes.length = Descriptor.size →
      ∃ descriptor, Descriptor.ofBytes? bytes = some descriptor ∧ descriptor.toBytes = bytes := by
  refine ⟨fun _ _ _ hsize hmalloc hmemory => writeBytes_writes hsize hmalloc hmemory,
    fun _ hnul => writeCString_run_interior program inst hnul, fun text hnul => ?_,
    fun pointer descriptor => ⟨fun hroom => ?_, fun hroom => ?_⟩,
    Descriptor.ofBytes?_toBytes, fun bytes hlength => ?_⟩
  · rw [writeCString_eq hnul]
    refine ⟨rfl, fun pointer final hrun cap => ?_⟩
    obtain ⟨before, hwritten⟩ := written_of_writeBytes hrun
    exact hwritten.readCString (Utf8.firstNul?_encode hnul) cap
  · exact writeDescriptor_written program descriptor hroom
  · exact write_run_outside program hroom
  · obtain ⟨descriptor, rfl⟩ := Descriptor.exists_of_length hlength
    exact ⟨descriptor, Descriptor.ofBytes?_toBytes descriptor, rfl⟩

/-- In one page of memory: a text whose terminator is the last byte there is, a text that is
none to be passed on, and a descriptor that is one byte too far behind. -/
theorem a_text_at_the_end_is_read :
    let inst : Instance (List Int32) :=
      Instance.new Settings.default (LinearMemory.zeros 1) [65533]
    (∃ final, writeCString "ab" scriptedAllocator inst = (.ok 65533, final) ∧
      final.calls = [⟨Export.malloc, [3]⟩] ∧
      final.state.memory.readBytes 65533 3 = .ok [0x61, 0x62, 0] ∧
      final.state.memory.readCString 65533 1 = .ok [0x61]) ∧
    writeCString "a\x00" scriptedAllocator inst = (.error (.error .interiorNul), inst) ∧
    (∃ final, writeDescriptor 65528 ⟨1, 2⟩ scriptedAllocator inst = (.ok (), final) ∧
      final.state.memory.readDescriptor 65528 = .ok ⟨1, 2⟩) ∧
    ∃ error, writeDescriptor 65529 ⟨1, 2⟩ scriptedAllocator inst =
      (.error (.error (.access error)), inst) := by
  intro inst
  obtain ⟨hbytes, hinterior, htext, hdescriptor, -⟩ :=
    what_is_written_is_read scriptedAllocator inst
  have hnul : '\x00' ∉ "ab".toList := by decide
  have hencoded : Utf8.encode "ab" ++ [0] = [0x61, 0x62, 0] := by decide +kernel
  obtain ⟨hsame, hread⟩ := htext "ab" hnul
  obtain ⟨outcome, final, hrun, hwrites⟩ :=
    hbytes [0x61, 0x62, 0] (.ok 65533) { inst.state with own := [] } (by decide) rfl rfl
  -- the last of the three bytes is the last of the page
  obtain rfl : outcome = .ok 65533 := (hwrites.ok_iff 65533).mpr ⟨rfl, by decide, by decide⟩
  rw [hencoded, hrun] at hsame
  have hpart := hread 65533 final hsame 1
  have hfirst : (Utf8.encode "ab").take 1 = [0x61] := by decide +kernel
  rw [hfirst] at hpart
  obtain ⟨after, hwrite, -, -, hagain⟩ := (hdescriptor 65528 ⟨1, 2⟩).1 (by decide)
  refine ⟨⟨final, hsame, hwrites.calls, (hwrites.written 65533 rfl).2, hpart⟩,
    hinterior _ (by decide), ⟨after, hwrite, hagain⟩, (hdescriptor 65529 ⟨1, 2⟩).2 (by decide)⟩

end Harness

end GuestHost

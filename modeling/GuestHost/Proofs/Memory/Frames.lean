import GuestHost.Proofs.Guest.Handles
import GuestHost.Proofs.Memory.Access
import GuestHost.Session.Run

/-!
# One format of frames on both sides

A frame is made in three places.  The guest writes one into a block of its heap; a buffer
that starts with one is taken apart in a single go; and the host reads one from memory in
two steps, the header first and then as many bytes behind it as the header says.

The two readers are compared through `LinearMemory.tail`, all the bytes from an address
on: bytes stand at an address exactly if the tail starts with them (`holds_iff_prefix_tail`).
So both readers find the same header with the same payload behind it
(`readFrame_eq_ok_iff_payload_tail`), and the guest's writer puts these two next to each other
(`OwnedBuffer.framed_answers`).
-/

namespace GuestHost

namespace LinearMemory

variable {memory : LinearMemory} {start : Nat} {bytes : Bytes}

/-- All the bytes from an address to the end of memory. -/
def tail (memory : LinearMemory) (start : Nat) : Bytes :=
  memory.slice start (memory.size - start)

theorem holds_iff_prefix_tail :
    memory.Holds start bytes ↔ start ≤ memory.size ∧ bytes <+: memory.tail start := by
  constructor
  · intro hholds
    have hfits := hholds.fits
    -- only one string of that length stands there, and the tail starts with one
    have htail : memory.Holds start (memory.tail start) := holds_slice (by omega)
    have hlength : ((memory.tail start).take bytes.length).length = bytes.length := by
      rw [List.length_take, tail, length_slice]
      omega
    refine ⟨by omega, ?_⟩
    rw [← (htail.take bytes.length).unique hholds hlength]
    exact List.take_prefix _ _
  · rintro ⟨hstart, rest, htail⟩
    have hholds : memory.Holds start (bytes ++ rest) := by
      rw [htail]
      exact holds_slice (by omega)
    exact (holds_append.mp hholds).1

/-- The host's reader answers what the payload of memory's tail is. -/
theorem readFrame_eq_ok_iff_payload_tail {pointer : Int32} {payload : Bytes}
    (hpointer : Word.toCount? pointer = some start)
    (hroom : start + Frame.headerSize < 2 ^ 31) :
    memory.readFrame pointer = .ok payload ↔
      start ≤ memory.size ∧ Frame.payload (memory.tail start) = .ok payload := by
  rw [readFrame_eq_ok_iff hpointer hroom, Frame.payload_eq_ok_iff]
  simp only [holds_iff_prefix_tail]
  constructor
  · rintro ⟨head, hheader, hstart, hprefix⟩
    exact ⟨hstart, head, hheader, hprefix⟩
  · rintro ⟨hstart, head, hheader, hprefix⟩
    exact ⟨head, hheader, hstart, hprefix⟩

end LinearMemory

/-! ## The guest's writer -/

/-- Where the system grants the block, the buffer that is made is the frame of the
payload, as large as it has to be. -/
theorem OwnedBuffer.framed_answers {σ : Type} {world : World σ} {machine : Machine σ}
    {payload head : Bytes} (hheader : Frame.header payload.length = .ok head)
    (hgranted : (world.answer machine (Frame.headerSize + payload.length)).isSome) :
    ∃ buffer after, framed payload world machine = (.ok (.ok buffer), after) ∧
      buffer.length = payload.length + 4 ∧
      buffer.capacity world after = (.ok (payload.length + 4), after) ∧
      buffer.bytes world after = (.ok (head ++ payload), after) := by
  obtain ⟨address, hanswer⟩ := Option.isSome_iff_exists.mp hgranted
  obtain ⟨block, hcontents, hrun⟩ := framed_run_granted hheader hanswer
  have hfound : (machine.grant address block).heap.find? address = some block :=
    Machine.find?_grant_self (World.fresh_of_answer hanswer)
  have hlength : (head ++ payload).length = payload.length + 4 := by
    rw [List.length_append, Frame.length_header hheader, Nat.add_comm]
    rfl
  have hcapacity : block.capacity = payload.length + 4 := by
    rw [← block.length_contents, hcontents, hlength]
  refine ⟨_, _, hrun, Nat.add_comm _ _, ?_, ?_⟩
  · rw [capacity_run hfound, hcapacity]
  · have hfits : (head ++ payload).length ≤ Frame.headerSize + payload.length := by
      rw [hlength, Nat.add_comm]
      exact Nat.le_refl _
    rw [bytes_run hfound, hcontents, List.take_of_length_le hfits]

/-! ## One format -/

/-- The host's reader of frames and that of a whole buffer are one and the same, and both
undo what the guest's writer does: the payload comes back from the buffer that is made for
it, and from wherever the buffer's bytes stand in memory. -/
theorem frames_are_read_alike (σ : Type) :
    (∀ (memory : LinearMemory) (pointer : Int32), 0 ≤ pointer.toInt →
      pointer.toInt ≤ Int32.maxValue.toInt - Frame.headerSize →
      ∀ payload, memory.readFrame pointer = .ok payload ↔
        pointer.toInt.toNat ≤ memory.size ∧
          Frame.payload (memory.tail pointer.toInt.toNat) = .ok payload) ∧
    ∀ (world : World σ) (machine : Machine σ) (payload : Bytes), payload.length < 2 ^ 31 →
      (world.answer machine (Frame.headerSize + payload.length)).isSome →
      ∃ head buffer after, Frame.header payload.length = .ok head ∧
        OwnedBuffer.framed payload world machine = (.ok (.ok buffer), after) ∧
        buffer.length = payload.length + 4 ∧
        buffer.capacity world after = (.ok (payload.length + 4), after) ∧
        buffer.bytes world after = (.ok (head ++ payload), after) ∧
        Frame.payload (head ++ payload) = .ok payload ∧
        ∀ (memory : LinearMemory) (pointer : Int32), 0 ≤ pointer.toInt →
          pointer.toInt ≤ Int32.maxValue.toInt - Frame.headerSize →
          memory.Holds pointer.toInt.toNat (head ++ payload) →
          memory.readFrame pointer = .ok payload := by
  have hmax : Int32.maxValue.toInt = 2 ^ 31 - 1 := rfl
  have hsize : Frame.headerSize = 4 := rfl
  refine ⟨fun memory pointer hnonneg hroom payload => ?_,
    fun world machine payload hsmall hgranted => ?_⟩
  · exact LinearMemory.readFrame_eq_ok_iff_payload_tail (Word.toCount?_of_nonneg hnonneg)
      (by omega)
  · have hheader := Frame.header_of_toCount? (Word.toCount?_ofNat hsmall)
    obtain ⟨buffer, after, hrun, hlength, hcapacity, hbytes⟩ :=
      OwnedBuffer.framed_answers hheader hgranted
    refine ⟨_, buffer, after, hheader, hrun, hlength, hcapacity, hbytes, ?_, ?_⟩
    · exact Frame.payload_eq_ok_iff.mpr ⟨_, hheader, List.prefix_rfl⟩
    · intro memory pointer hnonneg hroom hholds
      exact (LinearMemory.readFrame_eq_ok_iff (Word.toCount?_of_nonneg hnonneg)
        (by omega)).mpr ⟨_, hheader, hholds⟩

/-- A frame that ends where memory ends, and the same frame one byte too far behind. -/
theorem frame_at_the_end :
    let payload : Bytes := [0x61, 0]
    let memory := (LinearMemory.zeros 1).overwrite 65530 [2, 0, 0, 0, 0x61, 0]
    let cut := (LinearMemory.zeros 1).overwrite 65531 [2, 0, 0, 0, 0x61]
    memory.readFrame 65530 = .ok payload ∧ Frame.payload (memory.tail 65530) = .ok payload ∧
      cut.readFrame 65531 ≠ .ok payload := by
  intro payload memory cut
  let world : World Recording :=
    ⟨SystemAllocator.refusing none, Recording.host 1 0, Recording.rounds 1⟩
  let machine : Machine Recording := .start Heap.empty {}
  obtain ⟨halike, hwriter⟩ := frames_are_read_alike Recording
  obtain ⟨head, -, -, hheader, -, -, -, -, -, hread⟩ :=
    hwriter world machine payload (by decide) (by decide +kernel)
  have hhead : head = [2, 0, 0, 0] := by
    have hfour : (Frame.header payload.length).toOption = some [2, 0, 0, 0] := by
      decide +kernel
    rw [hheader] at hfour
    exact Option.some.inj hfour
  subst hhead
  have hframe := hread memory 65530 (by decide) (by decide) (by decide +kernel)
  refine ⟨hframe, ((halike memory 65530 (by decide) (by decide) payload).mp hframe).2, ?_⟩
  intro hcut
  have htail := ((halike cut 65531 (by decide) (by decide) payload).mp hcut).2
  have hnone : (Frame.payload (cut.tail (Int32.toInt 65531).toNat)).toOption = none := by
    decide +kernel
  rw [htail] at hnone
  cases hnone

end GuestHost

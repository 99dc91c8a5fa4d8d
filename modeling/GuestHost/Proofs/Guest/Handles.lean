import GuestHost.Guest.CString
import GuestHost.Guest.GuestString
import GuestHost.Proofs.Bytes
import GuestHost.Proofs.Frame
import GuestHost.Proofs.Guest.Machine

/-!
# What the operations on handles do to a machine

The equations of `Proofs/Guest/Machine.lean` for owned buffers, owned C strings
and strings by pointer and length.  A handle is followed to its block: the
hypotheses say which block stands at its address and that its lengths fit into
that block, which is all that an operation needs in order to succeed.

An operation that makes a handle has two equations.  If the system answers with
an address, the block there holds exactly what the handle was to be made of; the
writes that put it there are not seen from outside (`OwnedBuffer.framed_run_granted`,
`OwnedCString.ofBytes_run_granted`).  If it does not, the machine has at most had one
request more.

A string by pointer and length need not own a block: `GuestString.Within` says of one
that it is null, or that its bytes lie within the block that it points to.
-/

namespace GuestHost

variable {σ : Type} {world : World σ} {machine : Machine σ} {address : Address} {block : Block}

/-! ## Buffers -/

namespace OwnedBuffer

variable {buffer : OwnedBuffer}

theorem adopt_run_null : adopt 0 world machine = (.ok (.error .nullPointer), machine) := rfl

/-- All bytes of an adopted block count. -/
theorem adopt_run (hfound : machine.heap.find? address = some block) (hnull : address ≠ 0) :
    adopt address world machine = (.ok (.ok ⟨address, block.capacity⟩), machine) := by
  rw [adopt, if_neg hnull, Attempt.bind_of_ok (Guest.capacityOf_run hfound)]
  rfl

theorem capacity_run (hfound : machine.heap.find? buffer.address = some block) :
    buffer.capacity world machine = (.ok block.capacity, machine) :=
  Guest.capacityOf_run hfound

theorem release_run (hfound : machine.heap.find? buffer.address = some block)
    (hnull : buffer.address ≠ 0) :
    buffer.release world machine = (.ok (), machine.free buffer.address block) :=
  Guest.release_run hfound hnull

theorem bytes_run (hfound : machine.heap.find? buffer.address = some block) :
    buffer.bytes world machine = (.ok (block.contents.take buffer.length), machine) := by
  rw [bytes, Attempt.bind_of_ok (Guest.load_run hfound)]
  rfl

theorem write_run {offset : Nat} {patch : Bytes}
    (hfound : machine.heap.find? buffer.address = some block)
    (hlength : offset + patch.length ≤ buffer.length) (hfits : buffer.length ≤ block.capacity) :
    buffer.write offset patch world machine =
      (.ok (), machine.patch buffer.address
        (block.write offset patch (Nat.le_trans hlength hfits))) := by
  rw [write, if_pos hlength, Guest.store_run hfound]

theorem truncate_run {length : Int32} {count : Nat}
    (hfound : machine.heap.find? buffer.address = some block)
    (hcount : Word.toCount? length = some count) (hfits : count ≤ block.capacity) :
    buffer.truncate length world machine =
      (.ok (.ok { buffer with length := count }), machine) := by
  rw [truncate, Attempt.bind_of_ok (capacity_run hfound)]
  simp only [hcount, if_pos hfits]
  rfl

/-- A buffer is lost to a length that its block does not have. -/
theorem truncate_run_invalid {length : Int32}
    (hfound : machine.heap.find? buffer.address = some block) (hnull : buffer.address ≠ 0)
    (hinvalid : ∀ count, Word.toCount? length = some count → block.capacity < count) :
    buffer.truncate length world machine =
      (.ok (.error (.invalidLength length block.capacity)),
        machine.free buffer.address block) := by
  rw [truncate, Attempt.bind_of_ok (capacity_run hfound)]
  cases hcount : Word.toCount? length with
  | none =>
      simp only
      rw [Attempt.bind_of_ok (release_run hfound hnull)]
      rfl
  | some count =>
      simp only [if_neg (Nat.not_le.mpr (hinvalid count hcount))]
      rw [Attempt.bind_of_ok (release_run hfound hnull)]
      rfl

section Making

variable {length : Nat} {bytes payload header : Bytes}

theorem allocate_run_denied (hanswer : world.answer machine length = none) :
    allocate length world machine =
      (.ok (.error (.allocationFailed length)), machine.deny length) := by
  rw [allocate, Attempt.bind_of_ok (Guest.allocate_run_denied hanswer)]
  rfl

theorem allocate_run_granted (hanswer : world.answer machine length = some address) :
    ∃ block : Block, block.contents = List.replicate length 0 ∧
      allocate length world machine =
        (.ok (.ok ⟨address, length⟩), machine.grant address block) := by
  obtain ⟨block, hcontents, hrun⟩ := Guest.allocate_run_granted hanswer
  refine ⟨block, hcontents, ?_⟩
  rw [allocate, Attempt.bind_of_ok hrun]
  rfl

theorem ofBytes_run_denied (hanswer : world.answer machine bytes.length = none) :
    ofBytes bytes world machine =
      (.ok (.error (.allocationFailed bytes.length)), machine.deny bytes.length) := by
  rw [ofBytes, Attempt.bind_of_ok (allocate_run_denied hanswer)]
  rfl

theorem ofBytes_run_granted (hanswer : world.answer machine bytes.length = some address) :
    ∃ block : Block, block.contents = bytes ∧
      ofBytes bytes world machine =
        (.ok (.ok ⟨address, bytes.length⟩), machine.grant address block) := by
  have hfresh := World.fresh_of_answer hanswer
  obtain ⟨zeros, hzeros, hrun⟩ := allocate_run_granted hanswer
  have hfits : 0 + bytes.length ≤ zeros.capacity := by
    rw [← zeros.length_contents, hzeros]
    simp
  refine ⟨zeros.write 0 bytes hfits, Bytes.splice_zero (by simp [hzeros]), ?_⟩
  rw [ofBytes, Attempt.bind_of_ok hrun]
  simp only
  rw [Attempt.bind_of_ok (Guest.store_run_grant hfresh hfits)]
  rfl

theorem framed_run_tooLarge {error : FrameError}
    (hheader : Frame.header payload.length = .error error) :
    framed payload world machine = (.ok (.error (.frame error)), machine) := by
  rw [framed, hheader]
  rfl

theorem framed_run_denied (hheader : Frame.header payload.length = .ok header)
    (hanswer : world.answer machine (Frame.headerSize + payload.length) = none) :
    framed payload world machine =
      (.ok (.error (.allocationFailed (Frame.headerSize + payload.length))),
        machine.deny (Frame.headerSize + payload.length)) := by
  rw [framed, hheader]
  simp only
  rw [Attempt.bind_of_ok (allocate_run_denied hanswer)]
  rfl

theorem framed_run_granted (hheader : Frame.header payload.length = .ok header)
    (hanswer : world.answer machine (Frame.headerSize + payload.length) = some address) :
    ∃ block : Block, block.contents = header ++ payload ∧
      framed payload world machine =
        (.ok (.ok ⟨address, Frame.headerSize + payload.length⟩),
          machine.grant address block) := by
  have hlength := Frame.length_header hheader
  have hfresh := World.fresh_of_answer hanswer
  obtain ⟨zeros, hzeros, hrun⟩ := allocate_run_granted hanswer
  -- both writes fit, as the capacity is that of header and payload together
  have hcapacity : zeros.capacity = Frame.headerSize + payload.length := by
    rw [← zeros.length_contents, hzeros, List.length_replicate]
  have hfirst : 0 + header.length ≤ zeros.capacity := by omega
  have hsecond : Frame.headerSize + payload.length ≤ (zeros.write 0 header hfirst).capacity :=
    Nat.le_of_eq hcapacity.symm
  refine ⟨(zeros.write 0 header hfirst).write Frame.headerSize payload hsecond, ?_, ?_⟩
  · -- the two patches meet where the header ends
    simp only [Block.write, ← hlength]
    exact Bytes.splice_splice (by rw [hzeros, List.length_replicate, hlength])
  · rw [framed, hheader]
    simp only
    rw [Attempt.bind_of_ok hrun]
    simp only
    rw [Attempt.bind_of_ok (Guest.store_run_grant hfresh hfirst),
      Attempt.bind_of_ok (Guest.store_run_grant hfresh hsecond)]
    rfl

end Making

end OwnedBuffer

/-! ## C strings -/

/-- The first zero byte of a block stands within its capacity. -/
theorem Block.firstNul?_lt {index : Nat} (hzero : block.contents.firstNul? = some index) :
    index < block.capacity := by
  rw [← block.length_contents]
  exact Bytes.firstNul?_lt hzero

namespace OwnedCString

variable {text : OwnedCString}

theorem ofBytes_run_interior {bytes : Bytes} {position : Nat}
    (hzero : bytes.firstNul? = some position) :
    ofBytes bytes world machine = (.ok (.error (.interiorNul position)), machine) := by
  rw [ofBytes, hzero]
  rfl

theorem ofBytes_run_denied {bytes : Bytes} (hzero : bytes.firstNul? = none)
    (hanswer : world.answer machine (bytes.length + 1) = none) :
    ofBytes bytes world machine =
      (.ok (.error (.allocationFailed (bytes.length + 1))), machine.deny (bytes.length + 1)) := by
  rw [ofBytes, hzero]
  simp only
  rw [Attempt.bind_of_ok (OwnedBuffer.allocate_run_denied hanswer)]
  rfl

theorem ofBytes_run_granted {bytes : Bytes} (hzero : bytes.firstNul? = none)
    (hanswer : world.answer machine (bytes.length + 1) = some address) :
    ∃ block : Block, block.contents = bytes ++ [0] ∧
      ofBytes bytes world machine =
        (.ok (.ok ⟨⟨address, bytes.length + 1⟩, bytes.length⟩),
          machine.grant address block) := by
  have hfresh := World.fresh_of_answer hanswer
  obtain ⟨zeros, hzeros, hrun⟩ := OwnedBuffer.allocate_run_granted hanswer
  have hfits : 0 + bytes.length ≤ zeros.capacity := by
    rw [← zeros.length_contents, hzeros, List.length_replicate]
    omega
  have hlength : 0 + bytes.length ≤ (⟨address, bytes.length + 1⟩ : OwnedBuffer).length := by
    simp
  refine ⟨zeros.write 0 bytes hfits, ?_, ?_⟩
  · -- one zero byte is left behind the bytes
    simp [Block.write, Bytes.splice, hzeros]
  · rw [ofBytes, hzero]
    simp only
    rw [Attempt.bind_of_ok hrun]
    simp only
    rw [OwnedBuffer.write, if_pos hlength,
      Attempt.bind_of_ok (Guest.store_run_grant hfresh hfits)]
    rfl

theorem adopt_run_null : adopt 0 world machine = (.ok (.error .nullPointer), machine) := rfl

theorem adopt_run {length : Nat} (hfound : machine.heap.find? address = some block)
    (hnull : address ≠ 0) (hzero : block.contents.firstNul? = some length) :
    adopt address world machine = (.ok (.ok ⟨⟨address, block.capacity⟩, length⟩), machine) := by
  rw [adopt, Attempt.bind_of_ok (OwnedBuffer.adopt_run hfound hnull)]
  simp only
  rw [Attempt.bind_of_ok (OwnedBuffer.bytes_run hfound)]
  simp only [List.take_of_length_le (Nat.le_of_eq block.length_contents), hzero]
  rfl

/-- A block without a zero byte is lost when it is taken for a C string. -/
theorem adopt_run_unterminated (hfound : machine.heap.find? address = some block)
    (hnull : address ≠ 0) (hzero : block.contents.firstNul? = none) :
    adopt address world machine =
      (.ok (.error (.missingTerminator block.capacity)), machine.free address block) := by
  rw [adopt, Attempt.bind_of_ok (OwnedBuffer.adopt_run hfound hnull)]
  simp only
  rw [Attempt.bind_of_ok (OwnedBuffer.bytes_run hfound)]
  simp only [List.take_of_length_le (Nat.le_of_eq block.length_contents), hzero]
  rw [Attempt.bind_of_ok (OwnedBuffer.capacity_run hfound),
    Attempt.bind_of_ok (OwnedBuffer.release_run hfound hnull)]
  rfl

theorem slice_run {count : Nat} (hfound : machine.heap.find? text.buffer.address = some block)
    (hcount : count ≤ text.buffer.length) (hfits : text.buffer.length ≤ block.capacity) :
    text.slice count world machine = (.ok (block.contents.take count), machine) := by
  have hlength : count ≤ (block.contents.take text.buffer.length).length := by
    rw [List.length_take, block.length_contents]
    omega
  rw [slice, Attempt.bind_of_ok (OwnedBuffer.bytes_run hfound)]
  simp only [if_pos hlength, List.take_take, Nat.min_eq_left hcount]
  rfl

theorem bytes_run (hfound : machine.heap.find? text.buffer.address = some block)
    (hlength : text.length < text.buffer.length) (hfits : text.buffer.length ≤ block.capacity) :
    text.bytes world machine = (.ok (block.contents.take text.length), machine) :=
  slice_run hfound (Nat.le_of_lt hlength) hfits

/-- What a C string passes on ends at the first zero byte of its block. -/
theorem cString_run (hfound : machine.heap.find? text.buffer.address = some block)
    (hlength : text.length < text.buffer.length) (hfits : text.buffer.length ≤ block.capacity)
    (hzero : block.contents[text.length]? = some 0) :
    text.cString world machine = (.ok block.contents.untilNul, machine) := by
  obtain ⟨first, hfirst, hle⟩ := Bytes.exists_firstNul?_le hzero
  rw [cString, Attempt.bind_of_ok (slice_run hfound hlength hfits)]
  simp only [Bytes.firstNul?_take hfirst (Nat.lt_succ_of_le hle), List.take_take,
    Nat.min_eq_left (Nat.le_succ_of_le hle), Bytes.take_firstNul? hfirst]
  rfl

theorem write_run {offset : Nat} {patch : Bytes}
    (hfound : machine.heap.find? text.buffer.address = some block)
    (hpatch : offset + patch.length ≤ text.length) (hlength : text.length < text.buffer.length)
    (hfits : text.buffer.length ≤ block.capacity) :
    text.write offset patch world machine =
      (.ok (), machine.patch text.buffer.address
        (block.write offset patch (by omega))) := by
  rw [write, if_pos hpatch, OwnedBuffer.write_run hfound (by omega) hfits]

theorem release_run (hfound : machine.heap.find? text.buffer.address = some block)
    (hnull : text.buffer.address ≠ 0) :
    text.release world machine = (.ok (), machine.free text.buffer.address block) :=
  OwnedBuffer.release_run hfound hnull

theorem lentBytes_run_null : lentBytes 0 world machine = (.ok none, machine) := rfl

theorem lentBytes_run {length : Nat} (hfound : machine.heap.find? address = some block)
    (hnull : address ≠ 0) (hzero : block.contents.firstNul? = some length) :
    lentBytes address world machine = (.ok (some block.contents.untilNul), machine) := by
  rw [lentBytes, if_neg hnull, Attempt.bind_of_ok (Guest.load_run hfound)]
  simp only [hzero, Bytes.take_firstNul? hzero]
  rfl

end OwnedCString

/-! ## Strings by pointer and length -/

namespace GuestString

variable {string : GuestString}

/-- A string ends within its block, if it has one. -/
def Within (heap : Heap) (string : GuestString) : Prop :=
  string.pointer = 0 ∨
    ∃ block, heap.find? string.pointer = some block ∧ string.length ≤ block.capacity

/-- The bytes of a string. -/
def contents (heap : Heap) (string : GuestString) : Bytes :=
  if string.pointer = 0 then []
  else (heap.find? string.pointer).elim [] fun block => block.contents.take string.length

theorem contents_of_find? {heap : Heap} (hfound : heap.find? string.pointer = some block)
    (hnull : string.pointer ≠ 0) :
    string.contents heap = block.contents.take string.length := by
  rw [contents, if_neg hnull, hfound]
  rfl

theorem Within.live {heap : Heap} (hwithin : string.Within heap) :
    string.pointer = 0 ∨ ∃ block, heap.find? string.pointer = some block :=
  hwithin.imp_right fun ⟨block, hfound, _⟩ => ⟨block, hfound⟩

/-- What is granted stands elsewhere than a string. -/
theorem Within.ne_of_fresh {heap : Heap} {out : Address} (hwithin : string.Within heap)
    (hnull : out ≠ 0) (hfresh : heap.find? out = none) : out ≠ string.pointer := by
  rintro rfl
  obtain ⟨block, hfound⟩ := hwithin.live.resolve_left hnull
  rw [hfresh] at hfound
  cases hfound

theorem bytes_run (hwithin : string.Within machine.heap) :
    string.bytes world machine = (.ok (string.contents machine.heap), machine) := by
  by_cases hnull : string.pointer = 0
  · have hempty : string.isEmpty = true := by simp [isEmpty, hnull]
    rw [bytes, if_pos hempty, contents, if_pos hnull]
    rfl
  · obtain ⟨block, hfound, hfits⟩ := hwithin.resolve_left hnull
    rw [contents_of_find? hfound hnull]
    by_cases hlength : string.length = 0
    · have hempty : string.isEmpty = true := by simp [isEmpty, hlength]
      rw [bytes, if_pos hempty, hlength]
      rfl
    · have hempty : ¬ string.isEmpty = true := by simp [isEmpty, hlength, hnull]
      rw [bytes, if_neg hempty, Attempt.bind_of_ok (Guest.load_run hfound)]
      simp only [if_pos hfits]
      rfl

theorem release_run (hwithin : string.Within machine.heap) :
    string.release world machine = (.ok (), machine.drop string.pointer) :=
  Guest.release_run_drop hwithin.live

/-- The block of the string at a place is released, and the empty string is left there. -/
theorem free_run {place : Place} (hstring : machine.strings place = string)
    (hwithin : string.Within machine.heap) :
    free (some place) world machine =
      (.ok (), (machine.drop string.pointer).setString place empty) := by
  subst hstring
  rw [free, Attempt.bind_of_ok (Guest.readString_run place),
    Attempt.bind_of_ok (release_run hwithin)]
  exact Guest.writeString_run place empty

end GuestString

end GuestHost

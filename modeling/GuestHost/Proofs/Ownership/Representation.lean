import GuestHost.Proofs.Ownership.Runs
import GuestHost.Session.Run

/-!
# What a handle in hand is good for

A handle is an address and a length or two; what it stands for is in the block at its address,
whose capacity only the block knows.  Whatever a caller does with its handles, each of them
goes on describing its block (`fits_of_mem_slots`), and this is all that the operations on handles
need: a buffer's bytes are the first ones of its block (`OwnedBuffer.represents`), and a C string
has a zero byte where its bytes end, also if more zero bytes have been written in front
(`OwnedCString.represents`).

A bare address forgets the lengths of a handle.  Adopted again, a buffer counts all bytes of
its block, and a C string ends at its first zero byte, where it was passed on as a C string
before (`OwnedCString.adopt_address`).
-/

namespace GuestHost

variable {σ : Type}

/-! ## Buffers -/

/-- A buffer stands for the first bytes of a block: it can be read, be given any length that
the block has, whatever its length is, and be adopted again with all the bytes of the block. -/
structure OwnedBuffer.Represents (world : World σ) (machine : Machine σ) (buffer : OwnedBuffer)
    (block : Block) : Prop where
  found : machine.heap.find? buffer.address = some block
  length_le : buffer.length ≤ block.capacity
  capacity : buffer.capacity world machine = (.ok block.capacity, machine)
  bytes : buffer.bytes world machine = (.ok (block.contents.take buffer.length), machine)
  truncate : ∀ length : Int32, buffer.truncate length world machine =
    if 0 ≤ length.toInt ∧ length.toInt ≤ block.capacity then
      (.ok (.ok { buffer with length := length.toInt.toNat }), machine)
    else
      (.ok (.error (.invalidLength length block.capacity)), machine.free buffer.address block)
  adopt : OwnedBuffer.adopt buffer.address world machine =
    (.ok (.ok { buffer with length := block.capacity }), machine)

theorem OwnedBuffer.truncate_eq {world : World σ} {machine : Machine σ} {buffer : OwnedBuffer}
    {block : Block} (hfound : machine.heap.find? buffer.address = some block)
    (hnull : buffer.address ≠ 0) (length : Int32) :
    buffer.truncate length world machine =
      if 0 ≤ length.toInt ∧ length.toInt ≤ block.capacity then
        (.ok (.ok { buffer with length := length.toInt.toNat }), machine)
      else
        (.ok (.error (.invalidLength length block.capacity)),
          machine.free buffer.address block) := by
  by_cases hlength : 0 ≤ length.toInt ∧ length.toInt ≤ block.capacity
  · have hcount : Word.toCount? length = some length.toInt.toNat :=
      Word.toCount?_of_nonneg hlength.1
    rw [if_pos hlength, OwnedBuffer.truncate_run hfound hcount (by omega)]
  · have hinvalid : ∀ count, Word.toCount? length = some count → block.capacity < count := by
      intro count hcount
      have hcount := Word.toCount?_eq_some_iff.mp hcount
      omega
    rw [if_neg hlength, OwnedBuffer.truncate_run_invalid hfound hnull hinvalid]

theorem OwnedBuffer.represents {machine : Machine σ} {buffer : OwnedBuffer} (world : World σ)
    (hfits : (Holding.buffer buffer).Fits machine.heap) :
    ∃ block, buffer.Represents world machine block := by
  cases hfits with
  | block block hfound hnull hlength =>
      exact ⟨block, hfound, hlength, OwnedBuffer.capacity_run hfound,
        OwnedBuffer.bytes_run hfound, OwnedBuffer.truncate_eq hfound hnull,
        OwnedBuffer.adopt_run hfound hnull⟩

/-! ## C strings -/

/-- A C string stands for the bytes of a block in front of a zero byte: it can be read, and
what it is passed on as ends at the first zero byte there.  That is also what it is when it is
adopted again. -/
structure OwnedCString.Represents (world : World σ) (machine : Machine σ) (text : OwnedCString)
    (block : Block) : Prop where
  found : machine.heap.find? text.buffer.address = some block
  length_lt : text.length < text.buffer.length
  buffer_length_le : text.buffer.length ≤ block.capacity
  terminator : block.contents[text.length]? = some 0
  bytes : text.bytes world machine = (.ok (block.contents.take text.length), machine)
  /-- Among the bytes that `cString` looks through there is a zero byte. -/
  terminated : text.slice (text.length + 1) world machine =
      (.ok (block.contents.take (text.length + 1)), machine) ∧
    ∃ first, Bytes.firstNul? (block.contents.take (text.length + 1)) = some first
  cString : text.cString world machine =
    (.ok (Bytes.untilNul (block.contents.take text.length)), machine)
  adopt : ∃ again : OwnedCString,
    OwnedCString.adopt text.address world machine = (.ok (.ok again), machine) ∧
    again.address = text.address ∧ again.bytes world machine = text.cString world machine

/-- What is adopted again ends where it was passed on to end. -/
theorem OwnedCString.adopt_address {world : World σ} {machine : Machine σ} {text : OwnedCString}
    {block : Block} (hfound : machine.heap.find? text.buffer.address = some block)
    (hnull : text.buffer.address ≠ 0) (hzero : block.contents[text.length]? = some 0) :
    ∃ again : OwnedCString,
      OwnedCString.adopt text.address world machine = (.ok (.ok again), machine) ∧
      again.address = text.address ∧
      again.bytes world machine = (.ok block.contents.untilNul, machine) := by
  obtain ⟨first, hfirst, -⟩ := Bytes.exists_firstNul?_le hzero
  have hagain : (⟨⟨text.address, block.capacity⟩, first⟩ : OwnedCString).bytes world machine =
      (.ok (block.contents.take first), machine) :=
    OwnedCString.bytes_run hfound (Block.firstNul?_lt hfirst) (Nat.le_refl _)
  rw [Bytes.take_firstNul? hfirst] at hagain
  exact ⟨_, OwnedCString.adopt_run hfound hnull hfirst, rfl, hagain⟩

theorem OwnedCString.represents {machine : Machine σ} {text : OwnedCString} (world : World σ)
    (hfits : (Holding.cString text).Fits machine.heap) :
    ∃ block, text.Represents world machine block := by
  cases hfits with
  | block block hfound hnull hdescribes =>
      obtain ⟨hlength, hcapacity, hzero⟩ := hdescribes
      have hmessage : Bytes.untilNul (block.contents.take text.length) = block.contents.untilNul :=
        Bytes.untilNul_take hzero
      have hcString : text.cString world machine = (.ok block.contents.untilNul, machine) :=
        OwnedCString.cString_run hfound hlength hcapacity hzero
      -- the first zero byte is the terminator or stands in front of it
      obtain ⟨first, hfirst, hle⟩ := Bytes.exists_firstNul?_le hzero
      refine ⟨block, hfound, hlength, hcapacity, hzero,
        OwnedCString.bytes_run hfound hlength hcapacity,
        ⟨OwnedCString.slice_run hfound hlength hcapacity, first,
          Bytes.firstNul?_take hfirst (Nat.lt_succ_of_le hle)⟩, ?_, ?_⟩
      · rw [hmessage, hcString]
      · rw [hcString]
        exact OwnedCString.adopt_address hfound hnull hzero

/-! ## After any run -/

/-- What is in a slot after a run owns its block and describes it. -/
theorem fits_of_mem_slots {start : σ} {moves : List (Move σ)} {name : String} {holding : Holding}
    (hslot : (name, holding) ∈ ((Caller.initial start).after moves).slots) :
    holding.Fits ((Caller.initial start).after moves).machine.heap := by
  have horder := (inOrder_initial start).after moves
  refine horder.accounts.fits holding (List.mem_append_right _ ?_)
  rw [Slots.held_nil]
  exact List.mem_map_of_mem hslot

/-- After any run, in whatever worlds its moves are made, every buffer stands for the first
bytes of its block and every C string for those in front of its terminator. -/
theorem handles_represent_their_blocks (start : σ) (moves : List (Move σ)) (world : World σ) :
    let caller := (Caller.initial start).after moves
    (∀ name buffer, (name, Holding.buffer buffer) ∈ caller.slots →
      ∃ block, buffer.Represents world caller.machine block) ∧
    ∀ name text, (name, Holding.cString text) ∈ caller.slots →
      ∃ block, text.Represents world caller.machine block := by
  intro caller
  constructor
  · intro name buffer hslot
    exact OwnedBuffer.represents world (fits_of_mem_slots hslot)
  · intro name text hslot
    exact OwnedCString.represents world (fits_of_mem_slots hslot)

/-- A buffer of three bytes of which one counts, and a text with a zero byte written into it:
adopted again, the one has its three bytes and the other is cut. -/
theorem shortened_handles_represent_their_blocks :
    let world : World Recording :=
      ⟨SystemAllocator.refusing none, Recording.host 1 0, Recording.rounds 1⟩
    let moves : List (Move Recording) :=
      [⟨world, .bufferOfBytes [1, 2, 3] "buffer"⟩, ⟨world, .bufferTruncate "buffer" 1⟩,
        ⟨world, .textOfBytes [0x61, 0x62, 0x63] "text"⟩, ⟨world, .textWrite "text" 1 [0]⟩]
    let machine := ((Caller.initial {}).after moves).machine
    ∃ buffer text again,
      OwnedBuffer.bytes buffer world machine = (.ok [1], machine) ∧
      OwnedBuffer.adopt buffer.address world machine =
        (.ok (.ok { buffer with length := 3 }), machine) ∧
      OwnedCString.bytes text world machine = (.ok [0x61, 0, 0x63], machine) ∧
      OwnedCString.adopt text.address world machine = (.ok (.ok again), machine) ∧
      again.bytes world machine = (.ok [0x61], machine) := by
  intro world moves machine
  obtain ⟨hbuffers, htexts⟩ := handles_represent_their_blocks {} moves world
  obtain ⟨block, hbuffer⟩ := hbuffers "buffer" ⟨1, 1⟩ (by decide +kernel)
  obtain ⟨letters, htext⟩ := htexts "text" ⟨⟨2, 4⟩, 3⟩ (by decide +kernel)
  -- the bytes of the two blocks are evaluated, everything else is read off them
  have hblock : (machine.heap.find? 1).map Block.contents = some [1, 2, 3] := by decide +kernel
  have hletters : (machine.heap.find? 2).map Block.contents = some [0x61, 0, 0x63, 0] := by
    decide +kernel
  rw [hbuffer.found, Option.map_some, Option.some.injEq] at hblock
  rw [htext.found, Option.map_some, Option.some.injEq] at hletters
  have hcapacity : block.capacity = 3 := by rw [← block.length_contents, hblock]; rfl
  have hbytes := hbuffer.bytes
  have hadopt := hbuffer.adopt
  have hmessage := htext.bytes
  have hcString := htext.cString
  obtain ⟨again, hagain, -, hread⟩ := htext.adopt
  rw [hblock] at hbytes
  rw [hcapacity] at hadopt
  rw [hletters] at hmessage hcString
  rw [hcString] at hread
  exact ⟨⟨1, 1⟩, ⟨⟨2, 4⟩, 3⟩, again, hbytes, hadopt, hmessage, hagain, hread⟩

end GuestHost

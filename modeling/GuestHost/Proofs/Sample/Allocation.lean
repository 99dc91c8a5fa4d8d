import GuestHost.Proofs.Frame
import GuestHost.Proofs.Guest.Operations
import GuestHost.Proofs.Sample.Entry
import GuestHost.Session.Run

/-!
# Allocation is all or nothing

A block is made in five ways: bare, as a buffer of zeros or of given bytes, as a frame, and as
a C string.  Each of them asks the system at most once, and what becomes of the machine is
decided by the answer alone.  If the block is granted the heap has this block more, and in it
stand exactly the bytes asked for (`Machine.Gains`); if it is not the heap is what it was.
`AllOrNothing` says so once for all of them.

The footprint of a block is checked before the system is asked.  A release computes it again,
without a check, from the capacity that it finds in front of the block.  This is the same sum:
until the block is released nothing changes that capacity (`Machine.find?_through`).
-/

namespace GuestHost

variable {σ α : Type}

/-! ## What is asked for -/

section Answer

variable {world : World σ} {machine : Machine σ} {capacity : Nat} {address : Address}

theorem add_blockHeaderSize_le_iff :
    capacity + blockHeaderSize ≤ maxFootprint ↔ capacity ≤ 2 ^ 63 - 16 := by
  unfold blockHeaderSize maxFootprint
  omega

theorem footprint?_of_le (hle : capacity ≤ 2 ^ 63 - 16) :
    footprint? capacity = some (capacity + blockHeaderSize) :=
  if_pos (add_blockHeaderSize_le_iff.mpr hle)

theorem footprint?_of_lt (hlt : 2 ^ 63 - 16 < capacity) : footprint? capacity = none :=
  if_neg fun hle => absurd (add_blockHeaderSize_le_iff.mp hle) (Nat.not_le.mpr hlt)

theorem World.answer_of_le (hle : capacity ≤ 2 ^ 63 - 16) : world.answer machine capacity =
    world.system.place (machine.requests + 1) machine.heap (capacity + blockHeaderSize) := by
  rw [World.answer, footprint?_of_le hle, Option.bind_some]

theorem World.answer_of_lt (hlt : 2 ^ 63 - 16 < capacity) :
    world.answer machine capacity = none := by
  rw [World.answer, footprint?_of_lt hlt, Option.bind_none]

theorem World.answer_eq_some_iff : world.answer machine capacity = some address ↔
    capacity ≤ 2 ^ 63 - 16 ∧ world.system.place (machine.requests + 1) machine.heap
      (capacity + blockHeaderSize) = some address := by
  rcases Nat.lt_or_ge (2 ^ 63 - 16) capacity with hlt | hle
  · simp [World.answer_of_lt hlt, Nat.not_le.mpr hlt]
  · simp [World.answer_of_le hle, hle]

theorem Machine.deny_of_le (hle : capacity ≤ 2 ^ 63 - 16) :
    machine.deny capacity = { machine with requests := machine.requests + 1 } := by
  rw [Machine.deny, if_neg (by simp [footprint?_of_le hle])]

theorem Machine.deny_of_lt (hlt : 2 ^ 63 - 16 < capacity) : machine.deny capacity = machine := by
  rw [Machine.deny, if_pos (footprint?_of_lt hlt)]

end Answer

/-! ## A block more -/

/-- There is one block more, at an address where none was, and it holds the given bytes. -/
structure Machine.Gains (before : Machine σ) (address : Address) (contents : Bytes)
    (after : Machine σ) : Prop where
  nonnull : address ≠ 0
  heap : ∃ (block : Block) (hfresh : before.heap.find? address = none),
    block.contents = contents ∧ after.heap = before.heap.insert address block hfresh
  requests : after.requests = before.requests + 1
  host : after.host = before.host
  journal : after.journal =
    .allocated address (contents.length + blockHeaderSize) :: before.journal

namespace Machine.Gains

variable {world : World σ} {before after : Machine σ} {address : Address} {contents : Bytes}
  {capacity : Nat} {block : Block}

theorem of_grant (hanswer : world.answer before capacity = some address)
    (hcontents : block.contents = contents) :
    before.Gains address contents (before.grant address block) where
  nonnull := World.answer_ne_zero hanswer
  heap := ⟨block, World.fresh_of_answer hanswer, hcontents,
    Machine.heap_grant (World.fresh_of_answer hanswer)⟩
  requests := rfl
  host := rfl
  journal := by
    rw [Machine.journal_grant, Block.footprint_eq_capacity, ← hcontents, block.length_contents]

theorem find? (hgains : before.Gains address contents after) :
    ∃ block, after.heap.find? address = some block ∧ block.contents = contents := by
  obtain ⟨block, hfresh, hcontents, hheap⟩ := hgains.heap
  refine ⟨block, ?_, hcontents⟩
  rw [hheap, Heap.find?_insert, if_pos rfl]

theorem erase (hgains : before.Gains address contents after) :
    after.heap.erase address = before.heap := by
  obtain ⟨block, hfresh, -, hheap⟩ := hgains.heap
  rw [hheap, Heap.erase_insert]

end Machine.Gains

/-! ## A later release -/

/-- The owner of the block at an address finds the capacity it was made with.  Releasing the
block takes it away and nothing else, and hands it back with the footprint of that capacity. -/
structure Machine.Owns (world : World σ) (machine : Machine σ) (address : Address)
    (capacity : Nat) : Prop where
  capacityOf : Guest.capacityOf address world machine = (.ok capacity, machine)
  release : Guest.release address world machine =
    (.ok (), { machine with
      heap := machine.heap.erase address
      journal := .released address (capacity + blockHeaderSize) :: machine.journal })
  /-- The footprint passes the check again that it passed when the block was made. -/
  footprint : footprint? capacity = some (capacity + blockHeaderSize)
  footprint_le : capacity + blockHeaderSize ≤ 2 ^ 63 - 8

namespace Machine

variable {before machine : Machine σ} {address : Address} {contents : Bytes} {block : Block}
  {steps : List (World σ × Operation)}

theorem owns (world : World σ) (hfound : machine.heap.find? address = some block)
    (hnull : address ≠ 0) : machine.Owns world address block.capacity where
  capacityOf := Guest.capacityOf_run hfound
  release := Guest.release_run hfound hnull
  footprint := by rw [block.footprint_eq, Block.footprint_eq_capacity]
  footprint_le := (footprint?_eq_some_iff.mp block.footprint_eq).1

/-- Whatever happens to other blocks and whatever is written to this one, its owner can
release it. -/
theorem Gains.owns (hgains : before.Gains address contents machine) (world : World σ)
    (hkept : ∀ step ∈ steps, step.2 ≠ .release address) :
    (machine.through steps).Owns world address contents.length := by
  obtain ⟨block, hfound, rfl⟩ := hgains.find?
  obtain ⟨later, hlater, hcapacity⟩ := find?_through hkept hfound
  rw [block.length_contents, ← hcapacity]
  exact Machine.owns world hlater hgains.nonnull

/-- If nothing is changed but the block itself, releasing it gives the heap back as it was
before the block was made. -/
theorem Gains.restored (hgains : before.Gains address contents machine) (world : World σ)
    (hwrites : ∀ step ∈ steps, step.2.OnlyWrites address) :
    (Guest.release address world (machine.through steps)).2.heap = before.heap := by
  have howns := hgains.owns world fun step hstep => (hwrites step hstep).ne_release
  rw [howns.release]
  exact (erase_through hwrites).trans hgains.erase

end Machine

/-! ## What stands behind a new handle -/

/-- A buffer consists of the given bytes, and so does its block. -/
structure OwnedBuffer.Contains (world : World σ) (contents : Bytes) (address : Address)
    (buffer : OwnedBuffer) (machine : Machine σ) : Prop where
  address : buffer.address = address
  length : buffer.length = contents.length
  capacity : buffer.capacity world machine = (.ok contents.length, machine)
  bytes : buffer.bytes world machine = (.ok contents, machine)

/-- A C string consists of the given bytes, and its buffer of these and one zero byte. -/
structure OwnedCString.Contains (world : World σ) (contents : Bytes) (address : Address)
    (text : OwnedCString) (machine : Machine σ) : Prop where
  buffer : text.buffer.Contains world (contents ++ [0]) address machine
  length : text.length = contents.length
  bytes : text.bytes world machine = (.ok contents, machine)
  cString : text.cString world machine = (.ok contents, machine)

section Handles

variable {before after : Machine σ} {address : Address} {contents : Bytes}

theorem Machine.Gains.buffer (hgains : before.Gains address contents after) (world : World σ) :
    OwnedBuffer.Contains world contents address ⟨address, contents.length⟩ after := by
  obtain ⟨block, hfound, rfl⟩ := hgains.find?
  refine ⟨rfl, rfl, ?_, ?_⟩
  · rw [OwnedBuffer.capacity_run hfound, block.length_contents]
  · rw [OwnedBuffer.bytes_run hfound, List.take_length]

theorem Machine.Gains.text (hgains : before.Gains address (contents ++ [0]) after)
    (world : World σ) (hzero : contents.firstNul? = none) :
    OwnedCString.Contains world contents address
      ⟨⟨address, contents.length + 1⟩, contents.length⟩ after := by
  have hbuffer := hgains.buffer world
  obtain ⟨block, hfound, hcontents⟩ := hgains.find?
  have hlength : (contents ++ [0]).length = contents.length + 1 := List.length_append
  have hcapacity : contents.length + 1 ≤ block.capacity :=
    Nat.le_of_eq (by rw [← block.length_contents, hcontents, hlength])
  have hterminator : block.contents[contents.length]? = some 0 := by simp [hcontents]
  rw [hlength] at hbuffer
  refine ⟨hbuffer, rfl, ?_, ?_⟩
  · rw [OwnedCString.bytes_run hfound (Nat.lt_succ_self _) hcapacity, hcontents,
      List.take_left' rfl]
  · rw [OwnedCString.cString_run hfound (Nat.lt_succ_self _) hcapacity hterminator, hcontents,
      Bytes.untilNul_append_zero hzero]

end Handles

/-! ## All or nothing -/

/-- What it comes to when a block is to be made that holds certain bytes.  The system is asked
once, for the capacity and the hidden header, unless that is more than it can be asked for. -/
structure AllOrNothing (world : World σ) (machine : Machine σ)
    (make : Guest σ (Except GuestError α)) (capacity : Nat) (contents : Bytes)
    (Made : Address → α → Machine σ → Prop) : Prop where
  succeeds_iff : (∃ value after, make world machine = (.ok (.ok value), after)) ↔
    capacity ≤ 2 ^ 63 - 16 ∧ ∃ address, world.system.place (machine.requests + 1) machine.heap
      (capacity + blockHeaderSize) = some address
  granted : ∀ address, capacity ≤ 2 ^ 63 - 16 →
    world.system.place (machine.requests + 1) machine.heap (capacity + blockHeaderSize) =
      some address →
    ∃ value after, make world machine = (.ok (.ok value), after) ∧
      machine.Gains address contents after ∧ Made address value after
  refused : capacity ≤ 2 ^ 63 - 16 →
    world.system.place (machine.requests + 1) machine.heap (capacity + blockHeaderSize) = none →
    make world machine = (.ok (.error (.allocationFailed capacity)),
      { machine with requests := machine.requests + 1 })
  tooLarge : 2 ^ 63 - 16 < capacity →
    make world machine = (.ok (.error (.allocationFailed capacity)), machine)

/-- It is enough to know what a computation does with the system's answer, and what its value
is good for where there is one block more. -/
theorem AllOrNothing.of_answer {world : World σ} {machine : Machine σ}
    {make : Guest σ (Except GuestError α)} {capacity : Nat} {contents : Bytes}
    {Made : Address → α → Machine σ → Prop} (value : Address → α)
    (hdenied : world.answer machine capacity = none → make world machine =
      (.ok (.error (.allocationFailed capacity)), machine.deny capacity))
    (hgranted : ∀ address, world.answer machine capacity = some address →
      ∃ block : Block, block.contents = contents ∧
        make world machine = (.ok (.ok (value address)), machine.grant address block))
    (hmade : ∀ address after, machine.Gains address contents after →
      Made address (value address) after) :
    AllOrNothing world machine make capacity contents Made where
  succeeds_iff := by
    constructor
    -- without an answer the computation would have ended with the error
    · rintro ⟨value, after, hrun⟩
      cases hanswer : world.answer machine capacity with
      | none =>
          rw [hdenied hanswer] at hrun
          cases hrun
      | some address =>
          obtain ⟨hle, hplaced⟩ := World.answer_eq_some_iff.mp hanswer
          exact ⟨hle, address, hplaced⟩
    · rintro ⟨hle, address, hplaced⟩
      obtain ⟨block, -, hrun⟩ := hgranted address (World.answer_eq_some_iff.mpr ⟨hle, hplaced⟩)
      exact ⟨value address, machine.grant address block, hrun⟩
  granted := by
    intro address hle hplaced
    have hanswer := World.answer_eq_some_iff.mpr ⟨hle, hplaced⟩
    obtain ⟨block, hcontents, hrun⟩ := hgranted address hanswer
    have hgains := Machine.Gains.of_grant hanswer hcontents
    exact ⟨value address, _, hrun, hgains, hmade address _ hgains⟩
  refused := by
    intro hle hplaced
    rw [hdenied (by rw [World.answer_of_le hle, hplaced]), Machine.deny_of_le hle]
  tooLarge := by
    intro hlt
    rw [hdenied (World.answer_of_lt hlt), Machine.deny_of_lt hlt]

section Constructors

variable (world : World σ) (machine : Machine σ)

theorem Guest.allocate_allOrNothing (capacity : Nat) :
    AllOrNothing world machine (allocate capacity) capacity (List.replicate capacity 0)
      fun address value _ => value = address :=
  .of_answer id allocate_run_denied (fun _ => allocate_run_granted) fun _ _ _ => rfl

theorem OwnedBuffer.allocate_allOrNothing (length : Nat) :
    AllOrNothing world machine (allocate length) length (List.replicate length 0)
      (Contains world (List.replicate length 0)) := by
  refine .of_answer (fun address => ⟨address, length⟩) allocate_run_denied
    (fun _ => allocate_run_granted) fun address after hgains => ?_
  simpa only [List.length_replicate] using hgains.buffer world

theorem OwnedBuffer.ofBytes_allOrNothing (bytes : Bytes) :
    AllOrNothing world machine (ofBytes bytes) bytes.length bytes (Contains world bytes) :=
  .of_answer (fun address => ⟨address, bytes.length⟩) ofBytes_run_denied
    (fun _ => ofBytes_run_granted) fun _ _ hgains => hgains.buffer world

theorem OwnedBuffer.framed_allOrNothing {payload : Bytes}
    (hsmall : payload.length ≤ Int32.maxValue.toInt) :
    AllOrNothing world machine (framed payload) (payload.length + 4)
      (Word.toBytes (UInt32.ofNat payload.length) ++ payload)
      (Contains world (Word.toBytes (UInt32.ofNat payload.length) ++ payload)) := by
  have hlength : Frame.headerSize + payload.length = payload.length + 4 := Nat.add_comm ..
  have hheader : Frame.header payload.length =
      .ok (Word.toBytes (UInt32.ofNat payload.length)) := by
    have hcount : payload.length < 2 ^ 31 := by
      have hmax : Int32.maxValue.toInt = 2 ^ 31 - 1 := rfl
      omega
    rw [Frame.header, Word.ofCount?, if_pos hcount]
    rfl
  -- the header is counted in front in the program and behind here
  refine .of_answer (fun address => ⟨address, payload.length + 4⟩) ?_ ?_ ?_
  · intro hanswer
    rw [← hlength] at hanswer ⊢
    exact framed_run_denied hheader hanswer
  · intro address hanswer
    rw [← hlength] at hanswer ⊢
    exact framed_run_granted hheader hanswer
  · intro address after hgains
    have hbuffer := hgains.buffer world
    rwa [List.length_append, Word.length_toBytes, Nat.add_comm] at hbuffer

theorem OwnedCString.ofBytes_allOrNothing {bytes : Bytes} (hzero : bytes.firstNul? = none) :
    AllOrNothing world machine (ofBytes bytes) (bytes.length + 1) (bytes ++ [0])
      (Contains world bytes) :=
  .of_answer (fun address => ⟨⟨address, bytes.length + 1⟩, bytes.length⟩)
    (ofBytes_run_denied hzero) (fun _ => ofBytes_run_granted hzero)
    fun _ _ hgains => hgains.text world hzero

end Constructors

/-! ## The exported allocator -/

section Malloc

variable (world : World σ) (machine : Machine σ)

/-- What the exported allocator does with a size: what comes out of `Guest.allocate`, except
that there is the null pointer in the place of every error. -/
structure Entry.MallocAllocates (size : Int32) (address : Address) (after : Machine σ) :
    Prop where
  run : Entry.malloc size world machine = (.ok address, after)
  null_iff : address = 0 ↔ size.toInt < 0 ∨
    ∃ error, (Guest.allocate size.toInt.toNat world machine).1 = .ok (.error error)
  of_ne_zero : address ≠ 0 →
    Guest.allocate size.toInt.toNat world machine = (.ok (.ok address), after)
  of_negative : size.toInt < 0 → after = machine
  of_nonneg : 0 ≤ size.toInt → after = (Guest.allocate size.toInt.toNat world machine).2

variable {world machine}

theorem Guest.allocate_ends (world : World σ) (machine : Machine σ) (capacity : Nat) :
    ∃ outcome after, allocate capacity world machine = (.ok outcome, after) ∧
      ∀ address, outcome = .ok address → address ≠ 0 := by
  cases hanswer : world.answer machine capacity with
  | none => exact ⟨_, _, allocate_run_denied hanswer, nofun⟩
  | some address =>
      obtain ⟨block, -, hrun⟩ := allocate_run_granted hanswer
      refine ⟨_, _, hrun, fun other hother => ?_⟩
      cases hother
      exact World.answer_ne_zero hanswer

theorem Entry.malloc_allocates (world : World σ) (machine : Machine σ) (size : Int32) :
    ∃ address after, MallocAllocates world machine size address after := by
  obtain ⟨outcome, after, hrun, hnonzero⟩ :=
    Guest.allocate_ends world machine size.toInt.toNat
  rcases Int.lt_or_le size.toInt 0 with hnegative | hnonneg
  · exact ⟨0, machine, {
      run := malloc_run_negative (Word.toCount?_eq_none_iff.mpr hnegative)
      null_iff := ⟨fun _ => .inl hnegative, fun _ => rfl⟩
      of_ne_zero := fun hnull => absurd rfl hnull
      of_negative := fun _ => rfl
      of_nonneg := fun hnonneg => absurd hnonneg (Int.not_le.mpr hnegative) }⟩
  -- a size that is not negative is asked for, and it is the outcome that decides
  · have hmalloc := malloc_run_of_allocate (Word.toCount?_of_nonneg hnonneg) hrun
    refine ⟨_, _, hmalloc, ?_, ?_, fun hnegative => absurd hnonneg (Int.not_le.mpr hnegative), ?_⟩
    all_goals rw [hrun]
    · cases outcome with
      | ok address => simpa [Except.toOption, Int.not_lt.mpr hnonneg] using hnonzero address rfl
      | error error => simp [Except.toOption]
    · cases outcome with
      | ok address => exact fun _ => rfl
      | error error => exact fun hnull => absurd rfl hnull
    · exact fun _ => rfl

end Malloc

/-! ## All ways to make a block -/

/-- However a block is made, it is made in full or not at all: with the heap as it was and
this block more in it, or with the heap as it was and the error that says why.  A block that
was made can be released at any time, with the footprint that the system granted it with. -/
theorem allocation_is_all_or_nothing (world : World σ) (machine : Machine σ) :
    (∀ capacity, AllOrNothing world machine (Guest.allocate capacity) capacity
      (List.replicate capacity 0) fun address value _ => value = address) ∧
    (∀ address contents after, machine.Gains address contents after →
      ∀ (steps : List (World σ × Operation)) (other : World σ),
        ((∀ step ∈ steps, step.2 ≠ .release address) →
          (after.through steps).Owns other address contents.length) ∧
        ((∀ step ∈ steps, step.2.OnlyWrites address) →
          (Guest.release address other (after.through steps)).2.heap = machine.heap)) ∧
    (∀ size, ∃ address after, Entry.MallocAllocates world machine size address after) ∧
    (∀ length, AllOrNothing world machine (OwnedBuffer.allocate length) length
      (List.replicate length 0) (OwnedBuffer.Contains world (List.replicate length 0))) ∧
    (∀ bytes, AllOrNothing world machine (OwnedBuffer.ofBytes bytes) bytes.length bytes
      (OwnedBuffer.Contains world bytes)) ∧
    (∀ payload : Bytes, payload.length ≤ Int32.maxValue.toInt →
      AllOrNothing world machine (OwnedBuffer.framed payload) (payload.length + 4)
        (Word.toBytes (UInt32.ofNat payload.length) ++ payload)
        (OwnedBuffer.Contains world (Word.toBytes (UInt32.ofNat payload.length) ++ payload))) ∧
    (∀ payload : Bytes, Int32.maxValue.toInt < payload.length →
      OwnedBuffer.framed payload world machine =
        (.ok (.error (.frame (.payloadTooLarge payload.length))), machine)) ∧
    (∀ bytes, 0 ∉ bytes → AllOrNothing world machine (OwnedCString.ofBytes bytes)
      (bytes.length + 1) (bytes ++ [0]) (OwnedCString.Contains world bytes)) ∧
    ∀ front rest, 0 ∉ front → OwnedCString.ofBytes (front ++ 0 :: rest) world machine =
      (.ok (.error (.interiorNul front.length)), machine) := by
  have hnone : ∀ bytes : Bytes, 0 ∉ bytes → bytes.firstNul? = none := fun bytes hzero =>
    Bytes.firstNul?_eq_none_iff.mpr fun byte hbyte hbad => hzero (hbad ▸ hbyte)
  refine ⟨Guest.allocate_allOrNothing world machine, ?_, Entry.malloc_allocates world machine,
    OwnedBuffer.allocate_allOrNothing world machine, OwnedBuffer.ofBytes_allOrNothing world machine,
    fun _ => OwnedBuffer.framed_allOrNothing world machine, ?_, ?_, ?_⟩
  · intro address contents after hgains steps other
    exact ⟨hgains.owns other, hgains.restored other⟩
  · intro payload hlarge
    exact OwnedBuffer.framed_run_tooLarge (Frame.header_eq_error_iff.mpr ⟨hlarge, rfl⟩)
  · intro bytes hzero
    exact OwnedCString.ofBytes_allOrNothing world machine (hnone bytes hzero)
  · intro front rest hzero
    exact OwnedCString.ofBytes_run_interior (Bytes.firstNul?_append_zero (hnone front hzero) rest)

/-- A frame of two bytes is made, written to and released again; bytes with a zero among them
are no C string. -/
theorem a_frame_is_made_and_released :
    let world : World Recording :=
      ⟨SystemAllocator.refusing none, Recording.host 1 0, Recording.rounds 1⟩
    let machine : Machine Recording := .start Heap.empty {}
    let steps : List (World Recording × Operation) :=
      [(world, .store 1 4 [9]), (world, .print [0x61])]
    (∃ buffer after, OwnedBuffer.framed [1, 2] world machine = (.ok (.ok buffer), after) ∧
      buffer.bytes world after = (.ok [2, 0, 0, 0, 1, 2], after) ∧
      Guest.capacityOf 1 world (after.through steps) = (.ok 6, after.through steps) ∧
      (Guest.release 1 world (after.through steps)).2.heap = Heap.empty) ∧
    OwnedCString.ofBytes [0x61, 0, 0x62, 0] world machine =
      (.ok (.error (.interiorNul 1)), machine) := by
  intro world machine steps
  obtain ⟨-, hlater, -, -, -, hframed, -, -, hinterior⟩ :=
    allocation_is_all_or_nothing world machine
  have hwrites : ∀ step ∈ steps, step.2.OnlyWrites 1 := by
    intro step hstep
    rcases List.mem_cons.mp hstep with rfl | hstep
    · rfl
    · obtain rfl := List.mem_singleton.mp hstep
      trivial
  obtain ⟨buffer, after, hrun, hgains, hcontains⟩ :=
    (hframed [1, 2] (by decide)).granted 1 (by decide) (by decide)
  obtain ⟨howns, hrestored⟩ := hlater 1 _ after hgains steps world
  have hkept := fun step hstep => (hwrites step hstep).ne_release
  exact ⟨⟨buffer, after, hrun, hcontains.bytes, (howns hkept).capacityOf, hrestored hwrites⟩,
    hinterior [0x61] [0x62, 0] (by decide)⟩

end GuestHost

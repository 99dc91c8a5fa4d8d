import GuestHost.Attempt
import GuestHost.Guest.Error
import GuestHost.Heap

/-!
# The machine that guest code runs on

Guest code works on a heap and talks to a host.  Both are open: the host is any
state machine with the four functions of `Host`, and the system behind the heap
is any `SystemAllocator`, which answers each request with an address that is not
in use or refuses it.  What depends on neither holds for all of them.

A `Guest` computation ends with a value, or stops: by a panic, or by touching a
block that is not live.  Either way the machine it leaves behind is kept, with
its `journal` of what was allocated, released, printed and sent.  `allocate`,
`release`, `load` and `store` are the only ways to the heap, so whatever misuse
there is, it stops the computation there.

Beside its blocks a guest is handed *places*, each of which a string by pointer and
length stands at.  Two arguments may be one place: what is written through the one
is then read through the other.
-/

namespace GuestHost

/-- The functions that a host offers to its guest.  Printing and receiving a
buffer always come back; reading the clock and the test function may panic. -/
structure Host (σ : Type) where
  /-- Take the bytes of a printed C string, without the terminator. -/
  print : Bytes → σ → Int32 × σ
  /-- Take a buffer. -/
  receiveBuffer : Bytes → σ → Int32 × σ
  /-- Read the clock, in microseconds. -/
  clock : σ → Except Panic Int64 × σ
  /-- The test function. -/
  test : Int32 → σ → Except Panic Int32 × σ

/-- What the system does with requests for blocks.  `place` answers the request of
the given number for the given footprint with an address, or refuses it. -/
structure SystemAllocator where
  place : (request : Nat) → Heap → (footprint : Nat) → Option Address
  place_ne_zero : ∀ {request heap footprint address},
    place request heap footprint = some address → address ≠ 0
  find?_place : ∀ {request heap footprint address},
    place request heap footprint = some address → heap.find? address = none

/-- What a guest does that can be seen from outside. -/
inductive Event
  /-- The system granted a block of this footprint. -/
  | allocated (address : Address) (footprint : Nat)
  /-- The block was handed back to the system as one of this footprint. -/
  | released (address : Address) (footprint : Nat)
  /-- The host was asked to print these bytes. -/
  | printed (message : Bytes)
  /-- The host was given this buffer. -/
  | sent (buffer : Bytes)
  deriving DecidableEq, Repr

/-- Where a string stands and how long it is. -/
structure GuestString where
  pointer : Address
  length : Nat
  deriving DecidableEq, Repr

/-- The string that owns nothing. -/
def GuestString.empty : GuestString := ⟨0, 0⟩

/-- Where a string by pointer and length is kept. -/
abbrev Place := String

/-- The state of a guest and its host. -/
structure Machine (σ : Type) where
  heap : Heap
  /-- The number of requests the system has had. -/
  requests : Nat
  /-- The state of the host. -/
  host : σ
  /-- What has happened, the latest first. -/
  journal : List Event
  /-- The strings at the places. -/
  strings : Place → GuestString

/-- A machine on which nothing has happened yet: the empty string stands everywhere. -/
def Machine.start {σ : Type} (heap : Heap) (host : σ) : Machine σ where
  heap := heap
  requests := 0
  host := host
  journal := []
  strings := fun _ => .empty

/-- What guest code finds around it. -/
structure World (σ : Type) where
  system : SystemAllocator
  host : Host σ
  /-- How many rounds a loop that waits for the clock is given, by the state of the
  host and the milliseconds to wait for. -/
  rounds : σ → Int32 → Nat

/-- Why a guest computation ends without a value. -/
inductive Stop
  | panic (cause : Panic)
  /-- A block was read, changed or released that is not live, or a byte outside of
  its block. -/
  | misuse (address : Address)
  /-- A loop that waits for the clock has used up its rounds. -/
  | outOfRounds
  deriving DecidableEq, Repr

/-- A guest computation. -/
abbrev Guest (σ α : Type) : Type :=
  Attempt (World σ) (Machine σ) Stop α

namespace Guest

variable {σ α : Type}

/-! ### The heap -/

/-- Ask for a block of zeros with the given capacity.  A capacity beyond the limit
is refused without asking the system. -/
def allocate (capacity : Nat) : Guest σ (Except GuestError Address) := fun world machine =>
  match hgranted : footprint? capacity with
  | none => (.ok (.error (.allocationFailed capacity)), machine)
  | some footprint =>
    let request := machine.requests + 1
    match hplaced : world.system.place request machine.heap footprint with
    | none =>
      (.ok (.error (.allocationFailed capacity)), { machine with requests := request })
    | some address =>
      (.ok (.ok address),
        { machine with
          requests := request
          heap := machine.heap.insert address (Block.zeroed capacity footprint hgranted)
            (world.system.find?_place hplaced)
          journal := .allocated address footprint :: machine.journal })

/-- The block at an address. -/
def load (address : Address) : Guest σ Block := fun _ machine =>
  match machine.heap.find? address with
  | some block => (.ok block, machine)
  | none => (.error (.misuse address), machine)

/-- Overwrite bytes of the block at an address. -/
def store (address : Address) (offset : Nat) (patch : Bytes) : Guest σ Unit :=
  fun _ machine =>
    match machine.heap.find? address with
    | none => (.error (.misuse address), machine)
    | some block =>
      if offset + patch.length ≤ block.capacity then
        (.ok (), { machine with
          heap := machine.heap.update address fun block =>
            if hfits : offset + patch.length ≤ block.capacity then block.write offset patch hfits
            else block })
      else (.error (.misuse address), machine)

/-- The capacity in the hidden header of the block at an address. -/
def capacityOf (address : Address) : Guest σ Nat := do
  return (← load address).capacity

/-- Hand the block at an address back to the system, as one of the footprint that
its recorded capacity comes to.  The null pointer is no block, and nothing is done
about it. -/
def release (address : Address) : Guest σ Unit := fun _ machine =>
  if address = 0 then (.ok (), machine)
  else
    match machine.heap.find? address with
    | none => (.error (.misuse address), machine)
    | some block =>
      (.ok (), { machine with
        heap := machine.heap.erase address
        journal := .released address (block.capacity + blockHeaderSize) :: machine.journal })

/-! ### Places -/

/-- The string at a place. -/
def readString (place : Place) : Guest σ GuestString := fun _ machine =>
  (.ok (machine.strings place), machine)

/-- Write a string to a place, over what stands there. -/
def writeString (place : Place) (string : GuestString) : Guest σ Unit := fun _ machine =>
  (.ok (), { machine with
    strings := fun other => if other = place then string else machine.strings other })

/-! ### The host -/

/-- Have the host print the bytes of a C string. -/
def print (message : Bytes) : Guest σ Int32 := fun world machine =>
  let (answer, host) := world.host.print message machine.host
  (.ok answer, { machine with host, journal := .printed message :: machine.journal })

/-- Give the host a buffer. -/
def sendBuffer (buffer : Bytes) : Guest σ Int32 := fun world machine =>
  let (answer, host) := world.host.receiveBuffer buffer machine.host
  (.ok answer, { machine with host, journal := .sent buffer :: machine.journal })

/-- Read the host's clock. -/
def readClock : Guest σ Int64 := fun world machine =>
  let (answer, host) := world.host.clock machine.host
  (answer.mapError .panic, { machine with host })

/-- Call the host's test function. -/
def callTest (argument : Int32) : Guest σ Int32 := fun world machine =>
  let (answer, host) := world.host.test argument machine.host
  (answer.mapError .panic, { machine with host })

end Guest

end GuestHost

import GuestHost.Guest.Machine

/-!
# Owned buffers

Whoever holds an `OwnedBuffer` has to release its block, once.  A buffer knows how
many of its block's bytes count: its *length*, at most the capacity.  It can be
allocated, filled from bytes or from a payload as a frame, or adopted from a bare
address, whose block then counts whole.  `truncate` sets the length anew and
releases the block if the length asked for is no length of it; `bytes` and `write`
work on the bytes that count; `address` is what is left when ownership is handed
on.
-/

namespace GuestHost

/-- The block at an address, owned, and how many of its bytes count. -/
structure OwnedBuffer where
  address : Address
  length : Nat
  deriving DecidableEq, Repr

namespace OwnedBuffer

variable {σ : Type}

/-- A buffer of zeros. -/
def allocate (length : Nat) : Guest σ (Except GuestError OwnedBuffer) := do
  match ← Guest.allocate length with
  | .error error => return .error error
  | .ok address => return .ok ⟨address, length⟩

/-- A buffer that holds the given bytes. -/
def ofBytes (bytes : Bytes) : Guest σ (Except GuestError OwnedBuffer) := do
  match ← allocate bytes.length with
  | .error error => return .error error
  | .ok buffer =>
    Guest.store buffer.address 0 bytes
    return .ok buffer

/-- A buffer that holds the frame of a payload. -/
def framed (payload : Bytes) : Guest σ (Except GuestError OwnedBuffer) := do
  match Frame.header payload.length with
  | .error error => return .error (.frame error)
  | .ok header =>
    match ← allocate (Frame.headerSize + payload.length) with
    | .error error => return .error error
    | .ok buffer =>
      Guest.store buffer.address 0 header
      Guest.store buffer.address Frame.headerSize payload
      return .ok buffer

/-- Take over the block at an address, all of whose bytes count. -/
def adopt (address : Address) : Guest σ (Except GuestError OwnedBuffer) := do
  if address = 0 then return .error .nullPointer
  else return .ok ⟨address, ← Guest.capacityOf address⟩

/-- The capacity of the buffer's block. -/
def capacity (buffer : OwnedBuffer) : Guest σ Nat :=
  Guest.capacityOf buffer.address

/-- Release the buffer's block. -/
def release (buffer : OwnedBuffer) : Guest σ Unit :=
  Guest.release buffer.address

/-- Let the first `length` bytes of the block count, whatever counted before.  The
buffer is lost if that is no length of its block. -/
def truncate (buffer : OwnedBuffer) (length : Int32) :
    Guest σ (Except GuestError OwnedBuffer) := do
  let capacity ← buffer.capacity
  match Word.toCount? length with
  | some count =>
    if count ≤ capacity then return .ok { buffer with length := count }
    else
      buffer.release
      return .error (.invalidLength length capacity)
  | none =>
    buffer.release
    return .error (.invalidLength length capacity)

/-- The bytes that count. -/
def bytes (buffer : OwnedBuffer) : Guest σ Bytes := do
  return (← Guest.load buffer.address).contents.take buffer.length

/-- Overwrite bytes from `offset` on, among those that count. -/
def write (buffer : OwnedBuffer) (offset : Nat) (patch : Bytes) : Guest σ Unit :=
  if offset + patch.length ≤ buffer.length then Guest.store buffer.address offset patch
  else Attempt.stop (.panic (.sliceEnd (offset + patch.length) buffer.length))

end OwnedBuffer

end GuestHost

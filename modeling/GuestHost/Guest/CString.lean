import GuestHost.Guest.Buffer

/-!
# Owned C strings

An `OwnedCString` is an owned buffer whose byte at index `length` is zero, so that
what stands before it can be passed on as a C string.  `ofBytes` makes one, and
refuses bytes that hold a zero; `adopt` takes one over from a bare address, and
releases the block if it holds no zero byte at all.  Writing through `write` may
put zeros before the terminator: `bytes` still gives all `length` bytes, `cString`
those before the first zero.

A C string can also be lent as a bare address; `lentBytes` reads it.
-/

namespace GuestHost

/-- An owned buffer with a zero byte at index `length`. -/
structure OwnedCString where
  buffer : OwnedBuffer
  length : Nat
  deriving DecidableEq, Repr

namespace OwnedCString

variable {σ : Type}

/-- A C string of the given bytes. -/
def ofBytes (bytes : Bytes) : Guest σ (Except GuestError OwnedCString) := do
  match bytes.firstNul? with
  | some position => return .error (.interiorNul position)
  | none =>
    match ← OwnedBuffer.allocate (bytes.length + 1) with
    | .error error => return .error error
    | .ok buffer =>
      buffer.write 0 bytes
      return .ok ⟨buffer, bytes.length⟩

/-- Take over the block at an address as the C string that it starts with. -/
def adopt (address : Address) : Guest σ (Except GuestError OwnedCString) := do
  match ← OwnedBuffer.adopt address with
  | .error error => return .error error
  | .ok buffer =>
    match (← buffer.bytes).firstNul? with
    | some length => return .ok ⟨buffer, length⟩
    | none =>
      let capacity ← buffer.capacity
      buffer.release
      return .error (.missingTerminator capacity)

/-- The first `count` bytes of the buffer, which has to have so many. -/
def slice (text : OwnedCString) (count : Nat) : Guest σ Bytes := do
  let bytes ← text.buffer.bytes
  if count ≤ bytes.length then return bytes.take count
  else Attempt.stop (.panic (.sliceEnd count bytes.length))

/-- The bytes before the terminator. -/
def bytes (text : OwnedCString) : Guest σ Bytes :=
  text.slice text.length

/-- The bytes before the first zero byte, up to the terminator.  Without a zero
byte there it is the empty string. -/
def cString (text : OwnedCString) : Guest σ Bytes := do
  let bytes ← text.slice (text.length + 1)
  match Bytes.firstNul? bytes with
  | some length => return bytes.take length
  | none => return []

/-- Overwrite bytes from `offset` on, before the terminator. -/
def write (text : OwnedCString) (offset : Nat) (patch : Bytes) : Guest σ Unit :=
  if offset + patch.length ≤ text.length then text.buffer.write offset patch
  else Attempt.stop (.panic (.sliceEnd (offset + patch.length) text.length))

/-- Release the string's block. -/
def release (text : OwnedCString) : Guest σ Unit :=
  text.buffer.release

/-- What is left when ownership is handed on. -/
def address (text : OwnedCString) : Address :=
  text.buffer.address

/-- The bytes of a C string lent at an address, without its terminator; none for
the null pointer.  The block has to hold a zero byte. -/
def lentBytes (address : Address) : Guest σ (Option Bytes) := do
  if address = 0 then return none
  else
    let block ← Guest.load address
    match Bytes.firstNul? block.contents with
    | some length => return some (block.contents.take length)
    | none => Attempt.stop (.misuse address)

end OwnedCString

end GuestHost

import GuestHost.Guest.Buffer

/-!
# Strings by pointer and length

The other way to pass a string is a *guest string*: the address of its bytes and
their number, without any terminator.  Whoever holds it owns the block at the
address, if the address is not null.  Guest functions are handed the place of a
string, so they can leave another one there.
-/

namespace GuestHost

namespace GuestString

variable {σ : Type}

/-- A string that points nowhere or has no bytes. -/
def isEmpty (string : GuestString) : Bool :=
  string.pointer == 0 || string.length == 0

/-- Hand a buffer on as a string of the bytes that count. -/
def ofBuffer (buffer : OwnedBuffer) : GuestString :=
  ⟨buffer.address, buffer.length⟩

/-- The bytes of a string, which have to lie within its block. -/
def bytes (string : GuestString) : Guest σ Bytes := do
  if string.isEmpty then return []
  else
    let block ← Guest.load string.pointer
    if string.length ≤ block.capacity then return block.contents.take string.length
    else Attempt.stop (.misuse string.pointer)

/-- Release the block of a string. -/
def release (string : GuestString) : Guest σ Unit :=
  Guest.release string.pointer

/-- Release the block of the string at a place and leave the empty string there; so
freeing it again does nothing.  Without a place nothing is done. -/
def free : Option Place → Guest σ Unit
  | none => return ()
  | some place => do
    let string ← Guest.readString place
    string.release
    Guest.writeString place empty

end GuestString

end GuestHost

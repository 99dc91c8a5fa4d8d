import GuestHost.Abi.Table
import GuestHost.Guest.CString
import GuestHost.Guest.GuestString
import GuestHost.Guest.Log

/-!
# Messages and buffers, owned

The samples that take buffers over, by handle.  Each of them owns what it is
given: it releases it before it comes back, or gives it back.
-/

namespace GuestHost.Sample

variable {σ : Type}

/-- Report on behalf of an export why it refuses. -/
def report (name : String) (error : GuestError) : Guest σ Unit := do
  let _ ← Guest.log .error (name ++ ": " ++ error.message)

/-- Give the bytes of a buffer back as a frame in a new one, and release it. -/
def receiveByteArray (data : OwnedBuffer) : Guest σ (Option OwnedBuffer) := do
  let bytes ← data.bytes
  match ← OwnedBuffer.framed bytes with
  | .ok framed =>
    data.release
    return some framed
  | .error error =>
    report Export.receiveByteArray error
    data.release
    return none

/-- Print a message and release it. -/
def print (message : OwnedCString) : Guest σ Unit := do
  let _ ← Guest.print (← message.cString)
  message.release

/-- Print a message and release it; the answer is its length, whatever the host
answers. -/
def printUsingHostPrint (message : OwnedCString) : Guest σ Int32 := do
  print message
  return Word.clamp message.length

/-- The bytes with upper-case letters, if there are any bytes. -/
def toUpper (bytes : Bytes) : Option Bytes :=
  if bytes.isEmpty then none else some (bytes.map Bytes.upperAscii)

/-- Print a message in upper-case letters and release it. -/
def printUpper (message : OwnedCString) : Guest σ Unit := do
  match toUpper (← message.bytes) with
  | some upper => message.write 0 upper
  | none => pure ()
  print message

/-- A buffer comes back as it is. -/
def echo (message : OwnedBuffer) : OwnedBuffer :=
  message

/-- A copy of a string in a block of its own.  If there is no room for one, that is
reported, and the copy is the empty string. -/
def copyString (string : GuestString) : Guest σ GuestString := do
  match ← OwnedBuffer.ofBytes (← string.bytes) with
  | .ok buffer => return GuestString.ofBuffer buffer
  | .error error =>
    report Export.guestEcho error
    return GuestString.empty

/-- Copy the string at a place, and free it there.  Without a place the copy is the
empty string. -/
def echoString (message : Option Place) : Guest σ GuestString := do
  let copy ←
    match message with
    | some place => do copyString (← Guest.readString place)
    | none => pure GuestString.empty
  GuestString.free message
  return copy

end GuestHost.Sample

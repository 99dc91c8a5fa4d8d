import GuestHost.Sample.BusyLoop
import GuestHost.Sample.Greeting
import GuestHost.Sample.Message

/-!
# The exported functions

The outermost layer of a guest takes bare addresses.  An argument that the guest
takes over becomes an owned handle, a lent one is read in place, and what is given
back to the caller is a bare address again.  A failure is reported as a log line
of level error, and what is given back then is zero or -1.
-/

namespace GuestHost.Entry

variable {σ : Type}

/-- The block of a signed size, or the null pointer. -/
def malloc (size : Int32) : Guest σ Address := do
  match Word.toCount? size with
  | none => return 0
  | some capacity =>
    match ← Guest.allocate capacity with
    | .ok address => return address
    | .error _ => return 0

/-- Release the block at an address. -/
def free (address : Address) : Guest σ Unit :=
  Guest.release address

/-- Greet with a lent message. -/
def helloWorld (message : Address) : Guest σ Int32 := do
  match ← OwnedCString.lentBytes message with
  | some bytes => Sample.helloWorld bytes
  | none =>
    Sample.report Export.helloWorld .nullPointer
    return -1

/-- Take a buffer over and give the frame of its first `length` bytes back, or the
null pointer. -/
def receiveByteArray (data : Address) (length : Int32) : Guest σ Address := do
  match ← OwnedBuffer.adopt data with
  | .error error =>
    Sample.report Export.receiveByteArray error
    return 0
  | .ok buffer =>
    match ← buffer.truncate length with
    | .error error =>
      Sample.report Export.receiveByteArray error
      return 0
    | .ok buffer =>
      match ← Sample.receiveByteArray buffer with
      | some framed => return framed.address
      | none => return 0

/-- Take a C string over for a sample; a failure is reported on behalf of the export
and answered with `refusal`. -/
def adoptMessage {α : Type} (name : String) (message : Address) (refusal : α)
    (use : OwnedCString → Guest σ α) : Guest σ α := do
  match ← OwnedCString.adopt message with
  | .ok text => use text
  | .error error =>
    Sample.report name error
    return refusal

/-- Take a message over and print it; the answer is its length or -1. -/
def printUsingHostPrint (message : Address) : Guest σ Int32 :=
  adoptMessage Export.printUsingHostPrint message (-1) Sample.printUsingHostPrint

/-- Take a message over and print it. -/
def print (message : Address) : Guest σ Unit :=
  adoptMessage Export.print message () Sample.print

/-- Take a message over and print it in upper-case letters. -/
def printUpper (message : Address) : Guest σ Unit :=
  adoptMessage Export.printUpper message () Sample.printUpper

/-- Take a buffer over and give it back. -/
def echo (message : Address) : Guest σ Address := do
  match ← OwnedBuffer.adopt message with
  | .ok buffer => return (Sample.echo buffer).address
  | .error _ => return 0

/-- Put a lent message in upper-case letters, in place.  An empty message is answered
with the null pointer. -/
def toUpper (message : Address) : Guest σ Address := do
  match ← OwnedCString.lentBytes message with
  | none => return 0
  | some bytes =>
    match Sample.toUpper bytes with
    | none => return 0
    | some upper =>
      Guest.store message 0 upper
      return message

/-- Copy the string at a place, free it there, and write the copy to the place of the
result, over whatever stands there; without such a place the copy is released. -/
def guestEcho (message result : Option Place) : Guest σ Unit := do
  let copy ← Sample.echoString message
  match result with
  | some place => Guest.writeString place copy
  | none => copy.release

end GuestHost.Entry

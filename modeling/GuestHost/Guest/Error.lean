import GuestHost.Frame

/-!
# What can go wrong in a guest

A guest refuses a request with a `GuestError`, which it reports and survives.  A
`Panic` ends the call in which it happens; it is what checked arithmetic and
checked slices come to, and what a scripted clock does when its script is over.
-/

namespace GuestHost

/-- Why a guest refuses a request. -/
inductive GuestError
  /-- The system did not grant the block, or could not be asked for it. -/
  | allocationFailed (size : Nat)
  /-- The length is negative or beyond the capacity. -/
  | invalidLength (length : Int32) (capacity : Nat)
  /-- A block taken for a C string holds no zero byte. -/
  | missingTerminator (capacity : Nat)
  /-- The bytes to be made a C string hold a zero byte. -/
  | interiorNul (position : Nat)
  /-- There is a null pointer where a buffer is taken over. -/
  | nullPointer
  /-- A frame cannot be written. -/
  | frame (error : FrameError)
  deriving DecidableEq, Repr

/-- The text of the error. -/
def GuestError.message : GuestError → String
  | .allocationFailed size => s!"Allocation of {size} bytes failed"
  | .invalidLength length capacity =>
    s!"Invalid length {length.toInt} for a buffer of capacity {capacity}"
  | .missingTerminator capacity => s!"No NUL terminator within {capacity} bytes"
  | .interiorNul position => s!"Interior NUL byte at offset {position}"
  | .nullPointer => "Null pointer passed where an owned buffer was expected"
  | .frame error => error.message

/-- Why a call ends without an answer. -/
inductive Panic
  /-- A sum does not fit into its type. -/
  | additionOverflow
  /-- A slice ends behind the bytes it is cut from. -/
  | sliceEnd (last length : Nat)
  /-- A scripted clock is read once more than its script has readings. -/
  | clockExhausted
  deriving DecidableEq, Repr

/-- The text of the panic. -/
def Panic.message : Panic → String
  | .additionOverflow => "attempt to add with overflow"
  | .sliceEnd last length =>
    s!"range end index {last} out of range for slice of length {length}"
  | .clockExhausted => "clock script exhausted"

end GuestHost

import GuestHost.Descriptor
import GuestHost.Frame
import GuestHost.Guest.Error
import GuestHost.Memory.Linear

/-!
# Reading a guest's memory

The host reads a guest's memory by pointers and lengths that the guest has chosen,
both signed words.  Each reader checks them and says by an `AccessError` what is
wrong.  There are bytes of a given length, C strings up to a cap, frames and
descriptors.
-/

namespace GuestHost

/-- Why a guest's memory cannot be read or written. -/
inductive AccessError
  | negativePointer (pointer : Int32)
  | negativeLength (length : Int32)
  /-- The bytes do not lie inside. -/
  | rangeOutside (pointer length : Int32)
  /-- The pointer is behind the end of memory. -/
  | pointerOutside (pointer : Int32) (size : Nat)
  /-- No zero byte follows. -/
  | unterminated (pointer : Int32)
  /-- A frame's header holds a negative length. -/
  | negativeHeader (length : Int32)
  /-- The bytes to be written do not lie inside. -/
  | writeOutside
  deriving DecidableEq, Repr

namespace AccessError

/-- What the memory itself says of bytes that do not lie inside. -/
def outside : String := "out of bounds memory access"

/-- The text of the error. -/
def message : AccessError → String
  | negativePointer pointer => s!"Negative guest pointer: {pointer.toInt}"
  | negativeLength length => s!"Negative length: {length.toInt}"
  | rangeOutside pointer length =>
    s!"Pointer/Length out of bounds: ptr={pointer.toInt}, len={length.toInt}"
  | pointerOutside pointer size =>
    s!"Pointer out of bounds: ptr={pointer.toInt}, memory_size={size}"
  | unterminated pointer => s!"Unterminated string at ptr={pointer.toInt}"
  | negativeHeader length => s!"Negative length in prefix header: {length.toInt}"
  | writeOutside => outside

/-- The text of the error and of what caused it. -/
def fullMessage : AccessError → String
  | rangeOutside pointer length => (rangeOutside pointer length).message ++ ": " ++ outside
  | error => error.message

end AccessError

/-- How an operation fails: with an error that is reported, or with a panic. -/
inductive Failure (ε : Type)
  | error (cause : ε)
  | panic (cause : Panic)
  deriving DecidableEq, Repr

/-- The failure with its error replaced. -/
def Failure.map {ε δ : Type} (wrap : ε → δ) : Failure ε → Failure δ
  | .error cause => .error (wrap cause)
  | .panic cause => .panic cause

namespace LinearMemory

/-- A pointer as an address. -/
def offset (pointer : Int32) : Except AccessError Nat :=
  match Word.toCount? pointer with
  | some address => .ok address
  | none => .error (.negativePointer pointer)

/-- The bytes at a pointer. -/
def readBytes (memory : LinearMemory) (pointer length : Int32) : Except AccessError Bytes := do
  let start ← offset pointer
  match Word.toCount? length with
  | none => .error (.negativeLength length)
  | some count =>
    match memory.slice? start count with
    | some bytes => .ok bytes
    | none => .error (.rangeOutside pointer length)

/-- The C string at a pointer, cut after `cap` bytes.  Its terminator has to be there
even if it is behind the cut. -/
def readCString (memory : LinearMemory) (pointer : Int32) (cap : Nat) :
    Except AccessError Bytes := do
  let start ← offset pointer
  if memory.size < start then .error (.pointerOutside pointer memory.size)
  else
    match memory.nulFrom? start with
    | none => .error (.unterminated pointer)
    | some terminator => .ok (memory.slice start (min (terminator - start) cap))

/-- The payload of the frame at a pointer.  The payload's own pointer is a sum of
signed words, which panics where it does not fit. -/
def readFrame (memory : LinearMemory) (pointer : Int32) :
    Except (Failure AccessError) Bytes := do
  let header ← (memory.readBytes pointer (Int32.ofNat Frame.headerSize)).mapError .error
  match Word.first? header with
  | none => .error (.error (.rangeOutside pointer (Int32.ofNat Frame.headerSize)))
  | some word =>
    let length := word.toInt32
    if length < 0 then .error (.error (.negativeHeader length))
    else
      match Word.add? pointer (Int32.ofNat Frame.headerSize) with
      | none => .error (.panic .additionOverflow)
      | some payload => (memory.readBytes payload length).mapError .error

/-- The descriptor at a pointer. -/
def readDescriptor (memory : LinearMemory) (pointer : Int32) :
    Except AccessError Descriptor := do
  let bytes ← memory.readBytes pointer (Int32.ofNat Descriptor.size)
  match Descriptor.ofBytes? bytes with
  | some descriptor => .ok descriptor
  | none => .error (.rangeOutside pointer (Int32.ofNat Descriptor.size))

/-- The memory with bytes written at a pointer. -/
def writeAt (memory : LinearMemory) (pointer : Int32) (bytes : Bytes) :
    Except AccessError LinearMemory := do
  let start ← offset pointer
  match memory.overwrite? start bytes with
  | some memory => .ok memory
  | none => .error .writeOutside

end LinearMemory

end GuestHost

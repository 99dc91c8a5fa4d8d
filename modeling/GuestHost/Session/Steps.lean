import GuestHost.Sample.Arithmetic
import GuestHost.Sample.Entry
import GuestHost.Session.Caller

/-!
# Sessions with a guest

A session is a list of steps.  Each names the slots it works on and says what the
caller does: use the allocator, work on a handle, or call a sample.  `Step.run`
says what a step does, and `Reply` what it answers.
-/

namespace GuestHost

/-- What a buffer looks like. -/
structure BufferView where
  length : Nat
  capacity : Nat
  bytes : Bytes
  deriving DecidableEq, Repr

/-- What a C string looks like. -/
structure CStringView where
  length : Nat
  bytes : Bytes
  cString : Bytes
  deriving DecidableEq, Repr

/-- What a string by pointer and length looks like. -/
structure StringView where
  isNull : Bool
  length : Nat
  isEmpty : Bool
  isDefault : Bool
  bytes : Bytes
  deriving DecidableEq, Repr

/-- What an address that was given back is. -/
inductive Returned
  /-- A new address. -/
  | pointer
  /-- The null pointer. -/
  | null
  /-- The address that was passed. -/
  | same
  /-- Another address than the one that was passed. -/
  | other
  deriving DecidableEq, Repr

/-- What a step answers. -/
inductive Reply
  | nothing
  | number (value : Int32)
  | flag (value : Bool)
  | address (returned : Returned)
  | capacity (size : Nat)
  | block (contents : Bytes)
  | bytes (bytes : Bytes)
  | buffer (view : BufferView)
  | cString (view : CStringView)
  | string (view : StringView)
  | echoed (message result : Option StringView) (fresh : Bool)
  | returned (same : Bool) (view : BufferView)
  deriving DecidableEq, Repr

/-- A step of a session.  `slot?` stands for a slot or the null pointer, and `into`
for the slot that is to receive a result. -/
inductive Step
  -- The allocator.
  | malloc (size : Int32) (into : String)
  | allocate (capacity : Nat) (into : String)
  | free (slot? : Option String)
  | write (slot? : Option String) (offset : Nat) (patch : Bytes)
  | read (slot? : Option String)
  | lentBytes (slot? : Option String)
  -- Buffers.
  | bufferAllocate (length : Nat) (into : String)
  | bufferOfBytes (bytes : Bytes) (into : String)
  | bufferFramed (payload : Bytes) (into : String)
  | bufferAdopt (slot? : Option String) (into : String)
  | bufferTruncate (slot : String) (length : Int32)
  | bufferView (slot : String)
  | bufferWrite (slot : String) (offset : Nat) (patch : Bytes)
  | bufferToRaw (slot into : String)
  | bufferToString (slot into : String)
  -- Any slot.
  | drop (slot : String)
  -- C strings.
  | textOfBytes (bytes : Bytes) (into : String)
  | textAdopt (slot? : Option String) (into : String)
  | textView (slot : String)
  | textWrite (slot : String) (offset : Nat) (patch : Bytes)
  | textToRaw (slot into : String)
  -- Strings by pointer and length.
  | stringNew (length : Nat) (into : String)
  | stringSetLength (slot? : Option String) (length : Nat)
  | stringView (slot? : Option String)
  | stringFree (slot? : Option String)
  -- Exported functions.
  | hello
  | printHelloWorld
  | passBuffer
  | plainHelloWorld
  | calcFib (n : Int32)
  | callHostFunction (argument : Int32)
  | keepBusy (ms : Int32)
  | helloWorld (slot? : Option String)
  | receiveByteArray (slot? : Option String) (length : Int32) (into : String)
  | printUsingHostPrint (slot? : Option String)
  | print (slot? : Option String)
  | printUpper (slot? : Option String)
  | echo (slot? : Option String) (into : String)
  | toUpper (slot? : Option String)
  | guestEcho (message? result? : Option String)
  -- Samples that take handles.
  | echoString (message? : Option String) (into : String)
  | greet (slot : String)
  | frameBuffer (slot into : String)
  | echoBuffer (slot into : String)
  | printTextUsingHostPrint (slot : String)
  | printText (slot : String)
  | printTextUpper (slot : String)
  -- Printing.
  | say (message : String)
  | log (level : Level) (message : String)
  deriving DecidableEq, Repr

namespace Session

variable {σ : Type}

/-! ### What a caller shows of what it holds -/

def viewBuffer (buffer : OwnedBuffer) : Session σ BufferView := call do
  return ⟨buffer.length, ← buffer.capacity, ← buffer.bytes⟩

def viewText (text : OwnedCString) : Session σ CStringView := call do
  return ⟨text.length, ← text.bytes, ← text.cString⟩

def viewString (string : GuestString) : Session σ StringView := call do
  return {
    isNull := string.pointer == 0
    length := string.length
    isEmpty := string.isEmpty
    isDefault := string == GuestString.empty
    bytes := ← string.bytes }

def viewString? : Option GuestString → Session σ (Option StringView)
  | none => return none
  | some string => do return some (← viewString string)

/-! ### Parts of steps -/

/-- Keep a buffer and show it. -/
def keepBuffer (name : String) (buffer : OwnedBuffer) : Session σ Reply := do
  keep name (.buffer buffer)
  return .buffer (← viewBuffer buffer)

/-- Keep a C string and show it. -/
def keepText (name : String) (text : OwnedCString) : Session σ Reply := do
  keep name (.cString text)
  return .cString (← viewText text)

/-- Keep a string and show it. -/
def keepString (name : String) (string : GuestString) : Session σ Reply := do
  keep name (.string string)
  return .string (← viewString string)

/-- Require that a patch ends within the given number of bytes. -/
def requireRange (offset : Nat) (patch : Bytes) (size : Nat) : Session σ Unit :=
  if offset + patch.length ≤ size then return () else Attempt.stop (.badRange size)

/-- The capacity of the block at an address; the null pointer has none. -/
def sizeAt (address : Address) : Session σ Nat :=
  if address = 0 then return 0 else call (Guest.capacityOf address)

/-- What an address is that came back for another one. -/
def compareAddress (passed answer : Address) : Returned :=
  if answer = 0 then .null else if answer = passed then .same else .other

end Session

open Session in
/-- What a step does, and what it answers. -/
def Step.run {σ : Type} : Step → Session σ Reply
  | .malloc size into => do
    let address ← call (Entry.malloc size)
    if address = 0 then return .address .null
    else
      keep into (.raw address)
      return .address .pointer
  | .allocate capacity into => do
    let address ← request (Guest.allocate capacity)
    keep into (.raw address)
    return .capacity (← call (Guest.capacityOf address))
  | .free slot? => do
    let address ← takeRaw slot?
    call (Entry.free address)
    return .nothing
  | .write slot? offset patch => do
    let address ← lendRaw slot?
    requireRange offset patch (← sizeAt address)
    if address = 0 then return .nothing
    else
      call (Guest.store address offset patch)
      return .nothing
  | .read slot? => do
    let address ← lendRaw slot?
    if address = 0 then return .block []
    else return .block (← call (Guest.load address)).contents
  | .lentBytes slot? => do
    let address ← lendCString slot?
    match ← call (OwnedCString.lentBytes address) with
    | none => return .nothing
    | some bytes => return .bytes bytes
  | .bufferAllocate length into => do
    keepBuffer into (← request (OwnedBuffer.allocate length))
  | .bufferOfBytes bytes into => do
    keepBuffer into (← request (OwnedBuffer.ofBytes bytes))
  | .bufferFramed payload into => do
    keepBuffer into (← request (OwnedBuffer.framed payload))
  | .bufferAdopt slot? into => do
    let address ← takeRaw slot?
    keepBuffer into (← request (OwnedBuffer.adopt address))
  | .bufferTruncate slot length => do
    let buffer ← takeBuffer slot
    keepBuffer slot (← request (buffer.truncate length))
  | .bufferView slot => do
    return .buffer (← viewBuffer (← lendBuffer slot))
  | .bufferWrite slot offset patch => do
    let buffer ← lendBuffer slot
    requireRange offset patch buffer.length
    call (buffer.write offset patch)
    return .nothing
  | .bufferToRaw slot into => do
    let buffer ← takeBuffer slot
    keep into (.raw buffer.address)
    return .nothing
  | .bufferToString slot into => do
    let buffer ← takeBuffer slot
    keepString into (GuestString.ofBuffer buffer)
  | .drop slot => do
    return .flag (← Session.drop slot)
  | .textOfBytes bytes into => do
    keepText into (← request (OwnedCString.ofBytes bytes))
  | .textAdopt slot? into => do
    let address ← takeRaw slot?
    keepText into (← request (OwnedCString.adopt address))
  | .textView slot => do
    return .cString (← viewText (← lendText slot))
  | .textWrite slot offset patch => do
    let text ← lendText slot
    requireRange offset patch text.length
    call (text.write offset patch)
    return .nothing
  | .textToRaw slot into => do
    let text ← takeText slot
    keep into (.raw text.address)
    return .nothing
  | .stringNew length into => keepString into ⟨0, length⟩
  | .stringSetLength slot? length => do
    match ← lendString slot? with
    | none => return .nothing
    | some string =>
      if string.pointer ≠ 0 then
        requireRange length [] (← call (Guest.capacityOf string.pointer))
      let string := { string with length }
      returnString slot? (some string)
      return .string (← viewString string)
  | .stringView slot? => do
    match ← lendString slot? with
    | none => return .nothing
    | some string => return .string (← viewString string)
  | .stringFree slot? => do
    let place ← layOut slot? (← lendString slot?)
    call (GuestString.free place)
    match ← pickUp place with
    | none => return .nothing
    | some left =>
      returnString slot? (some left)
      return .string (← viewString left)
  | .hello => do return .number (← call Sample.hello)
  | .printHelloWorld => do
    call Sample.printHelloWorld
    return .nothing
  | .passBuffer => do return .number (← call Sample.passBuffer)
  | .plainHelloWorld => do return .number (← call Sample.plainHelloWorld)
  | .calcFib n => return .number (Sample.calcFib n)
  | .callHostFunction argument => do
    return .number (← call (Sample.callHostFunction argument))
  | .keepBusy ms => do return .number (← call (Sample.keepBusy ms))
  | .helloWorld slot? => do
    let address ← lendCString slot?
    return .number (← call (Entry.helloWorld address))
  | .receiveByteArray slot? length into => do
    let data ← takeRaw slot?
    let address ← call (Entry.receiveByteArray data length)
    if address = 0 then return .nothing
    else
      keep into (.raw address)
      return .bytes (← call (Guest.load address)).contents
  | .printUsingHostPrint slot? => do
    let address ← takeRaw slot?
    return .number (← call (Entry.printUsingHostPrint address))
  | .print slot? => do
    let address ← takeRaw slot?
    call (Entry.print address)
    return .nothing
  | .printUpper slot? => do
    let address ← takeRaw slot?
    call (Entry.printUpper address)
    return .nothing
  | .echo slot? into => do
    let address ← takeRaw slot?
    let answer ← call (Entry.echo address)
    if answer ≠ 0 then
      keep into (.raw answer)
    return .address (compareAddress address answer)
  | .toUpper slot? => do
    let address ← lendCString slot?
    return .address (compareAddress address (← call (Entry.toUpper address)))
  | .guestEcho message? result? => do
    let passed ← lendString message?
    let target ← lendString result?
    let message ← layOut message? passed
    let result ← layOut result? target
    call (Entry.guestEcho message result)
    let left ← pickUp message
    let given ← pickUp result
    returnString message? left
    returnString result? given
    let fresh :=
      match passed, given with
      | some before, some after => before.pointer == 0 || after.pointer != before.pointer
      | _, _ => true
    return .echoed (← viewString? left) (← viewString? given) fresh
  | .echoString message? into => do
    let message ← layOut message? (← lendString message?)
    let copy ← call (Sample.echoString message)
    returnString message? (← pickUp message)
    keepString into copy
  | .greet slot => do
    let text ← lendText slot
    return .number (← call do Sample.helloWorld (← text.cString))
  | .frameBuffer slot into => do
    let buffer ← takeBuffer slot
    match ← call (Sample.receiveByteArray buffer) with
    | none => return .nothing
    | some framed => keepBuffer into framed
  | .echoBuffer slot into => do
    let buffer ← takeBuffer slot
    let answer := Sample.echo buffer
    keep into (.buffer answer)
    return .returned (answer.address == buffer.address) (← viewBuffer answer)
  | .printTextUsingHostPrint slot => do
    let text ← takeText slot
    return .number (← call (Sample.printUsingHostPrint text))
  | .printText slot => do
    let text ← takeText slot
    call (Sample.print text)
    return .nothing
  | .printTextUpper slot => do
    let text ← takeText slot
    call (Sample.printUpper text)
    return .nothing
  | .say message => do return .number (← call (Guest.printText message))
  | .log level message => do return .number (← call (Guest.log level message))

end GuestHost

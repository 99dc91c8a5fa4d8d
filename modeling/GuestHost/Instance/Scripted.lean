import GuestHost.Instance.Basic

/-!
# A guest that misbehaves on demand

To try a harness out there is a guest that keeps to the interface, or breaks it in
a chosen way.  For each of its functions a *mode* says how: mode `f` is the word at
address `4 * f`.  With mode zero a function does what it should; a function whose
mode is five traps.  Released pointers are logged in memory, their number at
address 64 and the pointers behind it.

The guest's own state is the top of its heap.  Blocks are never reused; the word
eight bytes before a block holds its size.
-/

namespace GuestHost.ScriptedGuest

/-- Running the guest: its state is memory, the host's record and the heap's top. -/
abbrev Run (α : Type) : Type :=
  Attempt Unit (GuestState UInt32) Trap α

/-! ### Memory -/

def mallocMode : UInt32 := 0
def freeMode : UInt32 := 1
def helloWorldMode : UInt32 := 2
def receiveMode : UInt32 := 3
def printMode : UInt32 := 4
def echoMode : UInt32 := 5
def upperMode : UInt32 := 6
def guestEchoMode : UInt32 := 7

/-- Where the number of released pointers stands. -/
def freedCount : UInt32 := 64

/-- Where the released pointers stand. -/
def freedList : UInt32 := 68

/-- Bytes that are no text, `"ab\xFF\xFE"`, and a terminator. -/
def notText : UInt32 := 2560

/-- The payload for the host. -/
def payload : UInt32 := 2576

/-- The greeting. -/
def greeting : UInt32 := 2592

/-- The report of a bad length. -/
def badLength : UInt32 := 2624

/-- Where the heap starts. -/
def heapStart : UInt32 := 4096

/-- An address behind every memory in use. -/
def farAway : UInt32 := 268435456

/-- What memory holds at first. -/
def initialMemory (pages : Nat) : LinearMemory :=
  let segments : List (UInt32 × Bytes) := [
    (notText, [0x61, 0x62, 0xFF, 0xFE, 0]),
    (payload, Abi.hostBufferPayload),
    (greeting, Utf8.encode "Hello from guest\n" ++ [0]),
    (badLength, Utf8.encode "[ERROR] ReceiveByteArray: bad length\n" ++ [0])]
  segments.foldl (fun memory (address, bytes) => memory.overwrite address.toNat bytes)
    (LinearMemory.zeros pages)

/-- End in a trap. -/
def trap {α : Type} : Run α := Attempt.stop .trap

/-- The word at an address and an offset. -/
def load (address : UInt32) (offset : Nat) : Run UInt32 := do
  match ← Attempt.look fun state => state.memory.word? (address.toNat + offset) with
  | some word => return word
  | none => trap

/-- The byte at an address. -/
def loadByte (address : UInt32) : Run UInt8 := do
  match ← Attempt.look fun state => state.memory.slice? address.toNat 1 with
  | some [byte] => return byte
  | _ => trap

/-- Write bytes at an address and an offset. -/
def storeBytes (address : UInt32) (offset : Nat) (bytes : Bytes) : Run Unit :=
  fun _ state =>
    match state.memory.overwrite? (address.toNat + offset) bytes with
    | some memory => (.ok (), { state with memory })
    | none => (.error .trap, state)

/-- Write a word at an address and an offset. -/
def store (address : UInt32) (offset : Nat) (word : UInt32) : Run Unit :=
  storeBytes address offset (Word.toBytes word)

/-- Copy bytes from one address to another. -/
def copy (target source size : UInt32) : Run Unit := do
  match ← Attempt.look fun state => state.memory.slice? source.toNat size.toNat with
  | some bytes => storeBytes target 0 bytes
  | none => trap

/-- The size of memory as a word. -/
def memorySize : Run UInt32 :=
  Attempt.look fun state => UInt32.ofNat state.memory.size

/-- The mode of a function. -/
def modeOf (function : UInt32) : Run UInt32 :=
  load (function * 4) 0

/-- Trap if the mode of a function says so. -/
def trapIfTold (function : UInt32) : Run Unit := do
  if (← modeOf function) = 5 then trap

/-- The length of the C string at an address. -/
def lengthAt (address : UInt32) : Run UInt32 := do
  match ← Attempt.look fun state => state.memory.nulFrom? address.toNat with
  | some terminator => return UInt32.ofNat (terminator - address.toNat)
  | none => trap

/-! ### The host's functions -/

def hostPrint (pointer : UInt32) : Run UInt32 := fun _ state =>
  let (answer, host) := state.host.print (some state.memory) pointer.toInt32
  (.ok answer.toUInt32, { state with host })

def hostReceive (pointer length : UInt32) : Run UInt32 := fun _ state =>
  let (answer, host) :=
    state.host.receiveBuffer (some state.memory) pointer.toInt32 length.toInt32
  (.ok answer.toUInt32, { state with host })

def hostTest (argument : UInt32) : Run UInt32 := fun _ state =>
  let (answer, host) := state.host.test argument.toInt32
  (.ok answer.toUInt32, { state with host })

/-- The guest drops what the clock shows. -/
def hostClock : Run Unit := fun _ state =>
  (.ok (), { state with host := state.host.countReading })

/-! ### The guest's functions -/

/-- A block behind all others.  Mode 1 has no room, 2 and 3 answer pointers that are
none; from 100 on the mode is a number of blocks that there is still room for. -/
def malloc (size : UInt32) : Run UInt32 := do
  let mode ← modeOf mallocMode
  if mode = 1 then return 0
  else if mode = 2 then return -16
  else if mode = 3 then return farAway
  else if mode = 100 then return 0
  else
    if 100 < mode.toInt32 then store (mallocMode * 4) 0 (mode - 1)
    if size.toInt32 < 0 then return 0
    else
      let top ← Attempt.look fun state => state.own
      let block := top + 8
      let last := block + ((size + 7) &&& -8)
      if (← memorySize) < last then return 0
      else
        store top 0 size
        Attempt.change fun state => { state with own := last }
        return block

/-- Log a pointer as released. -/
def free (pointer : UInt32) : Run Unit := do
  trapIfTold freeMode
  let count ← load freedCount 0
  store (freedList + count * 4) 0 pointer
  store freedCount 0 (count + 1)

/-- Release the string of a descriptor, and reset it. -/
def stringFree (descriptor : UInt32) : Run Unit := do
  free (← load descriptor 0)
  storeBytes descriptor 0 Descriptor.zero.toBytes

/-- Print a string and release it. -/
def printAndFree (pointer : UInt32) : Run UInt32 := do
  trapIfTold printMode
  let answer ← hostPrint pointer
  free pointer
  return answer

/-- Put the letters of a C string in upper case.  Without a terminator that goes on to
the end of memory, and traps there. -/
def upper (pointer : UInt32) : Run Unit := do
  let start := pointer.toNat
  let (last, terminated) ← Attempt.look fun state =>
    match state.memory.nulFrom? start with
    | some terminator => (terminator, true)
    | none => (state.memory.size, false)
  Attempt.change fun state =>
    let letters := (state.memory.slice start (last - start)).map Bytes.upperAscii
    { state with memory := state.memory.overwrite start letters }
  if !terminated then trap

/-- Print a string in upper-case letters and release it. -/
def printUpper (pointer : UInt32) : Run UInt32 := do
  upper pointer
  printAndFree pointer

/-- Give a buffer back as a frame and release it.  Modes 1, 4 and 6 answer pointers
without anything behind them, 2 and 3 frames with a bad header. -/
def receiveByteArray (pointer length : UInt32) : Run UInt32 := do
  trapIfTold receiveMode
  let mode ← modeOf receiveMode
  if mode = 1 then return 0
  else if mode = 4 then return -8
  else if mode = 6 then return (← memorySize) - 2
  else if mode = 2 ∨ mode = 3 then
    let answer ← malloc 4
    store answer 0 (if mode = 2 then -5 else 16777216)
    return answer
  else if (← load (pointer - 8) 0) < length then
    let _ ← hostPrint badLength
    free pointer
    return 0
  else
    let answer ← malloc (length + 4)
    if answer = 0 then return 0
    else
      store answer 0 length
      copy (answer + 4) pointer length
      free pointer
      return answer

/-- Give a string back.  Mode 2 gives a copy, 3 bytes that are no text, 7 a string
without a terminator, and 1, 4 and 6 answer pointers that are none. -/
def echo (pointer : UInt32) : Run UInt32 := do
  trapIfTold echoMode
  let mode ← modeOf echoMode
  if mode = 1 then return 0
  else if mode = 2 then
    let size := (← lengthAt pointer) + 1
    let answer ← malloc size
    copy answer pointer size
    return answer
  else if mode = 3 then return notText
  else if mode = 4 then return farAway
  else if mode = 6 then return -4
  else if mode = 7 then
    let answer := (← memorySize) - 4
    store answer 0 0x7a7a7a7a
    return answer
  else return pointer

/-- Put a string in upper-case letters, in place.  Mode 1 answers nothing, 2 another
pointer, and 3 leaves bytes that are no text. -/
def toUpper (pointer : UInt32) : Run UInt32 := do
  trapIfTold upperMode
  let mode ← modeOf upperMode
  if mode = 1 then return 0
  else if mode = 2 then return pointer + 1
  else if mode = 3 then
    storeBytes pointer 0 [255]
    return pointer
  else if (← loadByte pointer) = 0 then return 0
  else
    upper pointer
    return pointer

/-- Write a descriptor. -/
def setDescriptor (descriptor pointer length : UInt32) : Run Unit := do
  store descriptor 0 pointer
  store descriptor 4 length

/-- Give a string back by descriptor.  Mode 1 keeps the argument, 2 answers nothing,
3, 4, 6 and 7 answer bytes that are no text or no bytes at all, and 8 spoils the
argument's descriptor. -/
def guestEcho (input output : UInt32) : Run Unit := do
  trapIfTold guestEchoMode
  let mode ← modeOf guestEchoMode
  let length ← load input 4
  if mode ≤ 1 then
    let answer ← malloc length
    if answer ≠ 0 then
      copy answer (← load input 0) length
      setDescriptor output answer length
    if mode = 0 then stringFree input
  else
    stringFree input
    if mode = 3 then setDescriptor output notText 4
    if mode = 4 then setDescriptor output farAway 4
    if mode = 6 then setDescriptor output (-16) 4
    if mode = 7 then setDescriptor output notText (-1)
    if mode = 8 then store input 0 1

/-- Greet. -/
def greet : Run UInt32 := do
  let _ ← hostPrint greeting
  return 0

/-- A function without an answer. -/
def void (run : Run Unit) : Run UInt32 := do
  run
  return 0

/-- The function of a name, applied to its arguments. -/
def function (name : String) (arguments : List UInt32) : Run UInt32 :=
  match name, arguments with
  | "malloc", [size] => malloc size
  | "free", [pointer] => void (free pointer)
  | "guest_string_free", [descriptor] => void (stringFree descriptor)
  | "Hello", [] => greet
  | "hello_world", [] => greet
  | "PrintHelloWorld", [] => greet
  | "HelloWorld", [pointer] => do
    trapIfTold helloWorldMode
    hostPrint pointer
  | "PassBufferAndLengthToHost", [] => hostReceive payload 12
  | "CalcFib", [n] => return n + 7
  | "KeepCPUBusy", [ms] => do
    hostClock
    return ms
  | "add", [left, right] => return left + right
  | "call_host_function", [argument] => hostTest argument
  | "simd_test", [] => return 150
  | "ReceiveByteArray", [pointer, length] => receiveByteArray pointer length
  | "WasmPrintUsingHostPrint", [pointer] => printAndFree pointer
  | "Print", [pointer] => printAndFree pointer
  | "PrintUpper", [pointer] => printUpper pointer
  | "Echo", [pointer] => echo pointer
  | "ToUpper", [pointer] => toUpper pointer
  | "guest_echo", [input, output] => void (guestEcho input output)
  | "peek", [address] => load address 0
  | "poke", [address, word] => void (store address 0 word)
  | _, _ => trap

/-- The guest as a program: it exports the interface, its memory, and two functions to
look into memory and to change it. -/
def program : GuestProgram UInt32 where
  exports :=
    ("peek", .function ⟨[.i32], [.i32]⟩) ::
    ("poke", .function ⟨[.i32, .i32], []⟩) :: fullExports
  imports := Abi.imports.map fun spec => ⟨Abi.importModule, spec.name, spec.signature⟩
  invoke name arguments state :=
    let (outcome, state) := function name (arguments.map Int32.toUInt32) () state
    (outcome.map UInt32.toInt32, state)

/-- The guest at work, with the given number of pages. -/
def start (settings : Settings) (pages : Nat) : Instance UInt32 :=
  Instance.new settings (initialMemory pages) heapStart

/-- The pointers that were logged as released, from the one of the given number on, as
the host sees pointers. -/
def freedSince (seen : Nat) (memory : LinearMemory) : List Int32 :=
  let count := ((memory.word? freedCount.toNat).getD 0).toInt32.toInt.toNat
  (List.range' seen (count - seen)).filterMap fun index =>
    (memory.word? (freedList.toNat + 4 * index)).map UInt32.toInt32

end GuestHost.ScriptedGuest

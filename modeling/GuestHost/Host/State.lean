import GuestHost.Instance.Extern
import GuestHost.Level
import GuestHost.Memory.Access
import GuestHost.Settings.Basic
import GuestHost.Text.Utf8

/-!
# The host of an instance

The host behind a guest's imports keeps a record: the texts printed and the
buffers received, in the order of the calls, and the events that it has traced.
It finds what a guest means in the guest's memory, by pointers that it does not
trust; a call it cannot make sense of is answered with -1, traced, and leaves the
record as it was.

A printed string is cut at a cap *before* it is read as text, so a character at
the cut becomes a replacement character.  A line that carries a level is traced at
that level, any other at level info.
-/

namespace GuestHost

/-- A traced event. -/
structure TraceEvent where
  level : Level
  target : String
  message : String
  deriving DecidableEq, Repr

/-- What a host has recorded, and how it answers. -/
structure HostState where
  maxLogLength : Nat
  bufferStatus : Int32
  output : List String := []
  received : List Bytes := []
  events : List TraceEvent := []
  /-- How often the clock has been read. -/
  clockReads : Nat := 0
  deriving DecidableEq, Repr

namespace HostState

/-- The host of a new instance. -/
def new (settings : Settings) : HostState where
  maxLogLength := settings.maxLogLength
  bufferStatus := settings.bufferStatus

/-- The target of what a guest logs. -/
def guestTarget : String := "wasm_guest"

/-- The target of what the host itself has to say. -/
def hostTarget : String := "samples_harness::host"

/-- Trace an event. -/
def trace (state : HostState) (level : Level) (target message : String) : HostState :=
  { state with events := state.events ++ [⟨level, target, message⟩] }

/-- Trace an error of the host's own, and answer -1. -/
def refuse (state : HostState) (message : String) : Int32 × HostState :=
  (-1, state.trace .error hostTarget message)

/-- The memory that the host finds: the guest's own, if it is exported as a memory and under
the name that is looked for. -/
def exportedMemory (exports : List (String × Extern)) (memory : LinearMemory) :
    Option LinearMemory :=
  match exports.lookup "memory" with
  | some .memory => some memory
  | _ => none

/-- What is said when the guest exports no memory. -/
def noMemory : String := "Wasm guest: failed to get memory export"

/-- The text without the newlines at its end. -/
def trimNewlines (text : String) : String :=
  String.ofList (text.toList.reverse.dropWhile (· == '\n')).reverse

/-- The level and the message of the event for a printed text. -/
def eventOf (text : String) : Level × String :=
  let line := trimNewlines text
  (Level.parseLine line).getD (.info, line)

/-- Print the C string at a pointer: record its text, trace it as the guest's, and
answer the number of bytes. -/
def print (memory : Option LinearMemory) (pointer : Int32) (state : HostState) :
    Int32 × HostState :=
  match memory with
  | none => state.refuse noMemory
  | some memory =>
    match memory.readCString pointer state.maxLogLength with
    | .error error => state.refuse ("Invalid string in HostPrint: " ++ error.fullMessage)
    | .ok bytes =>
      let text := Utf8.decodeLossy bytes
      let (level, message) := eventOf text
      let state := state.trace level guestTarget message
      (Word.clamp bytes.length, { state with output := state.output ++ [text] })

/-- Receive the bytes at a pointer: record them, and answer the buffer status. -/
def receiveBuffer (memory : Option LinearMemory) (pointer length : Int32) (state : HostState) :
    Int32 × HostState :=
  match memory with
  | none => state.refuse noMemory
  | some memory =>
    match memory.readBytes pointer length with
    | .error error =>
      state.refuse ("Invalid buffer in HostFuncWithBufferAndLength: " ++ error.fullMessage)
    | .ok bytes =>
      let state := state.trace .debug hostTarget
        s!"Host function received buffer: {Utf8.decodeLossy bytes} ({length.toInt} bytes)"
      (state.bufferStatus, { state with received := state.received ++ [bytes] })

/-- The test function: the next word, modulo 2³². -/
def test (argument : Int32) (state : HostState) : Int32 × HostState :=
  (argument + 1, state.trace .debug hostTarget s!"TestHostFunc called with {argument.toInt}")

/-- One reading of the clock more. -/
def countReading (state : HostState) : HostState :=
  { state with clockReads := state.clockReads + 1 }

/-- Read the clock, which shows the microseconds since the host was made, reading by
reading. -/
def readClock (clock : Nat → Nat) (state : HostState) : Int64 × HostState :=
  (Int64.ofInt (min Int64.maxValue.toInt (clock state.clockReads)), state.countReading)

/-- Answer buffers from now on with another status. -/
def setBufferStatus (status : Int32) (state : HostState) : HostState :=
  { state with bufferStatus := status }

/-- Take the recorded texts out of the record. -/
def takeOutput (state : HostState) : List String × HostState :=
  (state.output, { state with output := [] })

end HostState

end GuestHost

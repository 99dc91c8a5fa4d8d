import GuestHost.Host.State

/-!
# Sessions with a host

The host's functions are tried out by a guest that only calls them.  Its memory
does not change, and may be one that the guest does not export.  What the host's
clock shows is given reading by reading.
-/

namespace GuestHost

/-- A step of a session with a host. -/
inductive HostStep
  | print (pointer : Int32)
  | receiveBuffer (pointer length : Int32)
  | test (argument : Int32)
  | clock
  | setBufferStatus (status : Int32)
  | takeOutput
  deriving DecidableEq, Repr

/-- What a step answers. -/
inductive HostReply
  | number (value : Int32)
  /-- Whether a reading of the clock is not before the one before it. -/
  | monotone (holds : Bool)
  | nothing
  | texts (texts : List String)
  deriving DecidableEq, Repr

/-- What a step came to: its answer, and what was recorded meanwhile. -/
structure HostReport where
  reply : HostReply
  output : List String
  received : List Bytes
  events : List TraceEvent
  deriving DecidableEq, Repr

/-- What a step does, and what it answers. -/
def HostStep.run (clock : Nat → Nat) (memory : Option LinearMemory) (state : HostState) :
    HostStep → HostReply × HostState
  | .print pointer =>
    let (answer, state) := state.print memory pointer
    (.number answer, state)
  | .receiveBuffer pointer length =>
    let (answer, state) := state.receiveBuffer memory pointer length
    (.number answer, state)
  | .test argument =>
    let (answer, state) := state.test argument
    (.number answer, state)
  | .clock =>
    let (first, state) := state.readClock clock
    let (second, state) := state.readClock clock
    (.monotone (first ≤ second), state)
  | .setBufferStatus status => (.nothing, state.setBufferStatus status)
  | .takeOutput =>
    let (texts, state) := state.takeOutput
    (.texts texts, state)

namespace HostSession

/-- Run steps one after another. -/
def runSteps (clock : Nat → Nat) (memory : Option LinearMemory) :
    HostState → List HostStep → List HostReport
  | _, [] => []
  | state, step :: steps =>
    let (reply, after) := step.run clock memory state
    ⟨reply, after.output.drop state.output.length, after.received.drop state.received.length,
      after.events.drop state.events.length⟩ :: runSteps clock memory after steps

/-- The memory of a guest that holds some bytes and is zero elsewhere. -/
def memoryWith (pages : Nat) (segments : List (Nat × Bytes)) : LinearMemory :=
  segments.foldl (fun memory (start, bytes) => memory.overwrite start bytes)
    (LinearMemory.zeros pages)

/-- Run a session under a clock that shows one microsecond more at each reading. -/
def run (settings : Settings) (memory : Option LinearMemory) (steps : List HostStep) :
    List HostReport :=
  runSteps id memory (HostState.new settings) steps

end HostSession

end GuestHost

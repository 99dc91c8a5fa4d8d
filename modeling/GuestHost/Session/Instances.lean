import GuestHost.Instance.Calls
import GuestHost.Instance.Scripted

/-!
# Sessions with an instance

The harness is tried out on the scripted guest.  A step calls one of the samples, or
changes how the guest behaves; it is reported by its answer or its failure, and by
what was printed, sent and released meanwhile.
-/

namespace GuestHost

/-- A step of a session with an instance. -/
inductive InstanceStep
  | hello
  | helloWorld (text : String)
  | passBuffer
  | calcFib (n : Int32)
  | receiveByteArray (data : Bytes)
  | receiveByteArrayWithLength (data : Bytes) (length : Int32)
  | tryReceiveByteArray (data : Bytes) (length : Int32)
  | printUsingHostPrint (text : String)
  | printHelloWorld
  | print (text : String)
  | echo (text : String)
  | toUpper (text : String)
  | printUpper (text : String)
  | keepBusy (ms : Int32)
  | guestEcho (text : String)
  | plainHelloWorld
  | add (left right : Int32)
  | callHostFunction (argument : Int32)
  | simdTest
  | memorySize
  | setBufferStatus (status : Int32)
  /-- Let the guest's function of a number behave in another way. -/
  | setMode (function : Nat) (mode : Int32)
  /-- Call a function by name and signature. -/
  | call (name : String) (signature : Signature) (argument : Int32)
  deriving DecidableEq, Repr

/-- What a step answers. -/
inductive InstanceReply
  | nothing
  | number (value : Int32)
  | size (bytes : Nat)
  | bytes (bytes : Bytes)
  | text (text : String)
  | echoed (text : String) (same : Bool)
  deriving DecidableEq, Repr

/-- What a step does, and what it answers. -/
def InstanceStep.run {γ : Type} : InstanceStep → Harness γ InstanceReply
  | .hello => do return .number (← Harness.hello)
  | .helloWorld text => do return .number (← Harness.helloWorld text)
  | .passBuffer => do return .number (← Harness.passBuffer)
  | .calcFib n => do return .number (← Harness.calcFib n)
  | .receiveByteArray data => do return .bytes (← Harness.receiveByteArray data)
  | .receiveByteArrayWithLength data length => do
    return .bytes (← Harness.receiveByteArrayWithLength data length)
  | .tryReceiveByteArray data length => do
    match ← Harness.tryReceiveByteArray data length with
    | some payload => return .bytes payload
    | none => return .nothing
  | .printUsingHostPrint text => do return .number (← Harness.printUsingHostPrint text)
  | .printHelloWorld => do
    Harness.printHelloWorld
    return .nothing
  | .print text => do
    Harness.print text
    return .nothing
  | .echo text => do
    let (echoed, same) ← Harness.echo text
    return .echoed echoed same
  | .toUpper text => do
    match ← Harness.toUpper text with
    | some upper => return .text upper
    | none => return .nothing
  | .printUpper text => do
    Harness.printUpper text
    return .nothing
  | .keepBusy ms => do return .number (← Harness.keepBusy ms)
  | .guestEcho text => do return .text (← Harness.guestEcho text)
  | .plainHelloWorld => do return .number (← Harness.plainHelloWorld)
  | .add left right => do return .number (← Harness.add left right)
  | .callHostFunction argument => do return .number (← Harness.callHostFunction argument)
  | .simdTest => do return .number (← Harness.simdTest)
  | .memorySize => do
    return .size (← Attempt.look fun inst => inst.state.memory.size)
  | .setBufferStatus status => do
    Attempt.change fun inst =>
      { inst with state := { inst.state with host := inst.state.host.setBufferStatus status } }
    return .nothing
  | .setMode function mode => do
    Harness.writeBytes.write (Int32.ofNat (4 * function)) (Word.toBytes mode.toUInt32)
    return .nothing
  | .call name signature argument => do
    let arguments := if signature.params.isEmpty then [] else [argument]
    let answer ← Harness.call name signature arguments
    if signature.results.isEmpty then return .nothing else return .number answer

/-- What a step came to: its answer or failure, and what happened meanwhile. -/
structure InstanceReport where
  reply : Except (Failure HarnessError) InstanceReply
  output : List String
  received : List Bytes
  freed : List Int32

namespace InstanceSession

/-- Run steps one after another; `seen` released pointers were reported before. -/
def runSteps : (seen : Nat) → Instance UInt32 → List InstanceStep → List InstanceReport
  | _, _, [] => []
  | seen, inst, step :: steps =>
    let (reply, after) := step.run ScriptedGuest.program inst
    let freed := ScriptedGuest.freedSince seen after.state.memory
    let (before, host) := (inst.state.host, after.state.host)
    ⟨reply, host.output.drop before.output.length, host.received.drop before.received.length,
      freed⟩ :: runSteps (seen + freed.length) after steps

/-- Run a session. -/
def run (settings : Settings) (pages : Nat) (steps : List InstanceStep) : List InstanceReport :=
  runSteps 0 (ScriptedGuest.start settings pages) steps

end InstanceSession

end GuestHost

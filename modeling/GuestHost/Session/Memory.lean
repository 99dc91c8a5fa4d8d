import GuestHost.Instance.Memory

/-!
# Sessions with a memory

Reading and writing a guest's memory is tried out on a memory without a program:
all there is of the guest is an allocator that answers what a script says.
-/

namespace GuestHost

/-- The guest whose allocator answers the words of a script in order, and the null
pointer from then on. -/
def scriptedAllocator : GuestProgram (List Int32) where
  exports := [(Export.malloc, .function ⟨[.i32], [.i32]⟩)]
  imports := []
  invoke _ _ state :=
    match state.own with
    | [] => (.ok 0, state)
    | answer :: rest => (.ok answer, { state with own := rest })

/-- A step of a session with a memory. -/
inductive MemoryStep
  | poke (pointer : Int32) (bytes : Bytes)
  | readBytes (pointer length : Int32)
  | readCString (pointer : Int32) (cap : Nat)
  | readFrame (pointer : Int32)
  | readDescriptor (pointer : Int32)
  | writeBytes (bytes : Bytes)
  | writeCString (text : String)
  | writeDescriptor (pointer : Int32) (descriptor : Descriptor)
  deriving DecidableEq, Repr

/-- What a step answers. -/
inductive MemoryReply
  | nothing
  | bytes (bytes : Bytes)
  | descriptor (descriptor : Descriptor)
  | pointer (pointer : Int32)
  deriving DecidableEq, Repr

/-- What a step does, and what it answers. -/
def MemoryStep.run : MemoryStep → Harness (List Int32) MemoryReply
  | .poke pointer bytes => do
    Harness.writeBytes.write pointer bytes
    return .nothing
  | .readBytes pointer length => do
    return .bytes (← Harness.read fun memory => memory.readBytes pointer length)
  | .readCString pointer cap => do
    return .bytes (← Harness.read fun memory => memory.readCString pointer cap)
  | .readFrame pointer => do return .bytes (← Harness.readFrame pointer)
  | .readDescriptor pointer => do
    return .descriptor (← Harness.read fun memory => memory.readDescriptor pointer)
  | .writeBytes bytes => do return .pointer (← Harness.writeBytes bytes)
  | .writeCString text => do return .pointer (← Harness.writeCString text)
  | .writeDescriptor pointer descriptor => do
    Harness.writeDescriptor pointer descriptor
    return .nothing

namespace MemorySession

/-- Run steps one after another. -/
def runSteps : Instance (List Int32) → List MemoryStep →
    List (Except (Failure HarnessError) MemoryReply) × Instance (List Int32)
  | inst, [] => ([], inst)
  | inst, step :: steps =>
    let (reply, inst) := step.run scriptedAllocator inst
    let (replies, inst) := runSteps inst steps
    (reply :: replies, inst)

/-- Run a session: what the steps answer, and how much the allocator was asked for. -/
def run (pages : Nat) (answers : List Int32) (steps : List MemoryStep) :
    List (Except (Failure HarnessError) MemoryReply) × List Int32 :=
  let start : Instance (List Int32) :=
    Instance.new Settings.default (LinearMemory.zeros pages) answers
  let (replies, inst) := runSteps start steps
  (replies, inst.calls.reverse.flatMap GuestCall.arguments)

end MemorySession

end GuestHost

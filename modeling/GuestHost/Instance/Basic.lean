import GuestHost.Attempt
import GuestHost.Host.State
import GuestHost.Instance.Extern
import GuestHost.Text.Quoted

/-!
# Instances

A guest program, seen from the harness, is what its exported functions do: `invoke`
answers a call with a word or a trap, and may change memory, the host's record and
the program's own state in any way, also before it traps.  Nothing else is known
about it.

An instance is a program at work.  `Harness` is the monad of working with one: its
state is that of the instance, along with a journal of the guest's functions that
were called, and it ends with a value or fails with a `HarnessError`.  A function
is called by its name and signature, and the call fails if the program does not
export a function of that name and signature.
-/

namespace GuestHost

/-- What a guest program works on. -/
structure GuestState (γ : Type) where
  memory : LinearMemory
  host : HostState
  /-- The program's own state. -/
  own : γ

/-- A function of a guest has come to an end without an answer. -/
inductive Trap
  | trap
  deriving DecidableEq, Repr

/-- A guest program.  A function without a result answers a word that means nothing. -/
structure GuestProgram (γ : Type) where
  exports : List (String × Extern)
  imports : List FunctionImport
  invoke : String → List Int32 → GuestState γ → Except Trap Int32 × GuestState γ

/-- A call of a guest's function. -/
structure GuestCall where
  name : String
  arguments : List Int32
  deriving DecidableEq, Repr

/-- A guest program at work. -/
structure Instance (γ : Type) where
  state : GuestState γ
  /-- The functions that were called, the latest first. -/
  calls : List GuestCall
  /-- How many bytes of a string are read at most. -/
  maxStringLength : Nat

/-- Why working with an instance fails. -/
inductive HarnessError
  | access (error : AccessError)
  | exportFault (fault : ExportFault)
  /-- An import is not offered, or a segment does not fit. -/
  | notInstantiated
  | noMemory
  /-- There is no function of the name and of the signature that it is called by. -/
  | noFunction (name : String)
  /-- A call has trapped. -/
  | callFailed (name : String)
  /-- Releasing a buffer has trapped. -/
  | freeFailed
  /-- Allocating has trapped. -/
  | allocationTrapped
  /-- The guest had no room. -/
  | allocationRefused (size : Int32)
  | bufferTooLarge
  | stringTooLarge
  /-- A string to be passed as a C string holds U+0000. -/
  | interiorNul
  /-- A function answered the null pointer where there should be a buffer. -/
  | nullResult (name : String)
  /-- A function that works in place answered another pointer. -/
  | otherPointer (name : String) (answer argument : Int32)
  /-- What was given back is not UTF-8. -/
  | notText (source : String)
  /-- A descriptor was taken over and not reset. -/
  | descriptorKept (descriptor : Descriptor)
  | nullDescriptor
  /-- The file of the sample module cannot be loaded. -/
  | notLoaded (path : String)
  deriving DecidableEq, Repr

/-- The text of the error. -/
def HarnessError.message : HarnessError → String
  | access error => error.message
  | exportFault fault => fault.message
  | notInstantiated => "Failed to instantiate sample module"
  | noMemory => "Sample module must export 'memory'"
  | noFunction name => s!"Sample module must export '{name}' function"
  | callFailed name => s!"Call to '{name}' failed"
  | freeFailed => "Guest free failed"
  | allocationTrapped => "error while executing"
  | allocationRefused size => s!"Guest malloc({size.toInt}) returned null"
  | bufferTooLarge => "Buffer too large for wasm32"
  | stringTooLarge => "String too large for wasm32"
  | interiorNul => "String passed to guest contains an interior NUL"
  | nullResult name => s!"{name} returned null"
  | otherPointer name answer argument =>
    s!"{name} returned {answer.toInt} instead of its argument {argument.toInt}"
  | notText source => s!"{source} returned a non-UTF-8 string"
  | descriptorKept descriptor =>
    "guest_echo did not release its input descriptor: WasmStringDescriptor \x7b "
      ++ s!"ptr: {descriptor.pointer.toNat}, len: {descriptor.length.toNat}" ++ " \x7d"
  | nullDescriptor => "guest_echo returned a null descriptor"
  | notLoaded path => "Failed to load sample module from " ++ Quoted.path path

/-- Working with an instance of a program. -/
abbrev Harness (γ α : Type) : Type :=
  Attempt (GuestProgram γ) (Instance γ) (Failure HarnessError) α

namespace Harness

variable {γ α : Type}

/-- Fail with an error. -/
def fail (error : HarnessError) : Harness γ α :=
  Attempt.stop (.error error)

/-- Read the guest's memory. -/
def read (reader : LinearMemory → Except AccessError α) : Harness γ α := fun _ inst =>
  ((reader inst.state.memory).mapError fun error => .error (.access error), inst)

/-- Is there a function of the name and of the signature? -/
def exportsFunction (program : GuestProgram γ) (name : String) (signature : Signature) : Bool :=
  program.exports.lookup name == some (.function signature)

/-- Run a function of the guest, and note the call. -/
def invoke (name : String) (arguments : List Int32) (onTrap : HarnessError) : Harness γ Int32 :=
  fun program inst =>
    let (outcome, state) := program.invoke name arguments inst.state
    (outcome.mapError fun _ => .error onTrap,
      { inst with state, calls := ⟨name, arguments⟩ :: inst.calls })

/-- Call a function by its name and signature. -/
def call (name : String) (signature : Signature) (arguments : List Int32) : Harness γ Int32 :=
  fun program inst =>
    if exportsFunction program name signature then
      invoke name arguments (.callFailed name) program inst
    else (.error (.error (.noFunction name)), inst)

end Harness

/-- Make a module with the given exports and imports ready to be called: check the
exports, resolve the imports, find the memory. -/
def checkModule (exports : List (String × Extern)) (imports : List FunctionImport) :
    Except HarnessError Unit :=
  match checkExports exports with
  | .error fault => .error (.exportFault fault)
  | .ok () =>
    if imports.all resolves then
      if exports.lookup "memory" = some .memory then .ok () else .error .noMemory
    else .error .notInstantiated

namespace Instance

variable {γ : Type}

/-- Strings shorter than this are always read whole. -/
def stringLengthFloor : Nat := 64 * 1024

/-- A program at work for the first time. -/
def new (settings : Settings) (memory : LinearMemory) (own : γ) : Instance γ where
  state := ⟨memory, HostState.new settings, own⟩
  calls := []
  maxStringLength := max settings.maxLogLength stringLengthFloor

end Instance

end GuestHost

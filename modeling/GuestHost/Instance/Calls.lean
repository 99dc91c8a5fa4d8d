import GuestHost.Instance.Memory

/-!
# Calling the samples

One operation for each exported function, according to who owns what.  A buffer
that the guest only borrows is released by the harness after the call, however the
call ends; one that the guest takes over is not.  A buffer that the guest gives
back is read and then released.

Before that, `Instance.instantiate` puts a program to work: its module is checked, and
the two functions are looked up that its memory is managed by.
-/

namespace GuestHost

namespace Signature

/-- No argument, and a word as the answer. -/
def answer : Signature := ⟨[], [.i32]⟩

/-- No argument and no answer. -/
def plain : Signature := ⟨[], []⟩

/-- A word as the argument and as the answer. -/
def unary : Signature := ⟨[.i32], [.i32]⟩

/-- A word as the argument, and no answer. -/
def take : Signature := ⟨[.i32], []⟩

/-- Two words as arguments, and a word as the answer. -/
def binary : Signature := ⟨[.i32, .i32], [.i32]⟩

/-- Two words as arguments, and no answer. -/
def takeTwo : Signature := ⟨[.i32, .i32], []⟩

end Signature

/-- Put a program to work, if its module is fit for it. -/
def Instance.instantiate {γ : Type} (program : GuestProgram γ) (settings : Settings)
    (memory : LinearMemory) (own : γ) : Except HarnessError (Instance γ) :=
  match checkModule program.exports program.imports with
  | .error error => .error error
  | .ok () =>
    if Harness.exportsFunction program Export.malloc .unary then
      if Harness.exportsFunction program Export.free .take then
        .ok (.new settings memory own)
      else .error (.noFunction Export.free)
    else .error (.noFunction Export.malloc)

namespace Harness

variable {γ : Type}

/-- Call a function that has no answer. -/
def callVoid (name : String) (signature : Signature) (arguments : List Int32) :
    Harness γ Unit := do
  let _ ← call name signature arguments

/-! ### Numbers only -/

def hello : Harness γ Int32 := call Export.hello .answer []

def passBuffer : Harness γ Int32 := call Export.passBuffer .answer []

def calcFib (n : Int32) : Harness γ Int32 := call Export.calcFib .unary [n]

def printHelloWorld : Harness γ Unit := callVoid Export.printHelloWorld .plain []

def keepBusy (ms : Int32) : Harness γ Int32 := call Export.keepBusy .unary [ms]

def plainHelloWorld : Harness γ Int32 := call Export.plainHelloWorld .answer []

def add (left right : Int32) : Harness γ Int32 := call Export.add .binary [left, right]

def callHostFunction (argument : Int32) : Harness γ Int32 :=
  call Export.callHostFunction .unary [argument]

def simdTest : Harness γ Int32 := call Export.simdTest .answer []

/-! ### Lent strings -/

/-- Lend a string to a function, and release it however the call ends.  A failure of
the call itself comes first. -/
def callLending (name text : String) : Harness γ Int32 := do
  let pointer ← writeCString text
  let answer ← Attempt.outcome (call name .unary [pointer])
  let freed ← Attempt.outcome (free pointer)
  let answer ← Attempt.ofExcept answer
  Attempt.ofExcept freed
  return answer

def helloWorld (text : String) : Harness γ Int32 := callLending Export.helloWorld text

/-- What `ToUpper` answered for the string lent at `pointer`: nothing for an empty
string, or the same pointer. -/
def upperAnswer (pointer answer : Int32) : Harness γ (Option String) :=
  if answer = 0 then return none
  else if answer = pointer then do return some (← readText answer)
  else fail (.otherPointer Export.toUpper answer pointer)

/-- Lend a string to be changed in place, read it, and release it however that
ends.  If the release fails, that is what is reported. -/
def toUpper (text : String) : Harness γ (Option String) := do
  let pointer ← writeCString text
  let result ← Attempt.outcome do
    upperAnswer pointer (← call Export.toUpper .unary [pointer])
  free pointer
  Attempt.ofExcept result

/-! ### Strings and buffers given away -/

def printUsingHostPrint (text : String) : Harness γ Int32 := do
  let pointer ← writeCString text
  call Export.printUsingHostPrint .unary [pointer]

def print (text : String) : Harness γ Unit := do
  let pointer ← writeCString text
  callVoid Export.print .take [pointer]

def printUpper (text : String) : Harness γ Unit := do
  let pointer ← writeCString text
  callVoid Export.printUpper .take [pointer]

/-- Give a buffer away and get the frame of its first `length` bytes back, if the
guest does not answer the null pointer. -/
def tryReceiveByteArray (data : Bytes) (length : Int32) : Harness γ (Option Bytes) := do
  let pointer ← writeBytes data
  let answer ← call Export.receiveByteArray .binary [pointer, length]
  if answer = 0 then return none
  else
    let payload ← readFrame answer
    free answer
    return some payload

/-- Give a buffer away and get the frame of its first `length` bytes back. -/
def receiveByteArrayWithLength (data : Bytes) (length : Int32) : Harness γ Bytes := do
  match ← tryReceiveByteArray data length with
  | some payload => return payload
  | none => fail (.nullResult Export.receiveByteArray)

/-- Give a buffer away and get the frame of all its bytes back. -/
def receiveByteArray (data : Bytes) : Harness γ Bytes :=
  match Word.ofCount? data.length with
  | none => fail .bufferTooLarge
  | some length => receiveByteArrayWithLength data length

/-- Give a string away and get one back; is it the same? -/
def echo (text : String) : Harness γ (String × Bool) := do
  let pointer ← writeCString text
  let answer ← call Export.echo .unary [pointer]
  if answer = 0 then fail (.nullResult Export.echo)
  else
    let echoed ← readText answer
    free answer
    return (echoed, answer == pointer)

/-! ### Strings by descriptor -/

/-- Give a string away by a descriptor, and get one back in another descriptor.  The
guest has to reset the first descriptor, and not to leave the second one null. -/
def guestEcho (text : String) : Harness γ String := do
  let message := Utf8.encode text
  let data ← writeBytes message
  if 2 ^ 32 ≤ message.length then fail .stringTooLarge
  else
    let input ← writeBytes Descriptor.zero.toBytes
    writeDescriptor input ⟨data.toUInt32, UInt32.ofNat message.length⟩
    let output ← writeBytes Descriptor.zero.toBytes
    callVoid Export.guestEcho .takeTwo [input, output]
    let consumed ← read fun memory => memory.readDescriptor input
    if consumed ≠ Descriptor.zero then fail (.descriptorKept consumed)
    else
      let returned ← read fun memory => memory.readDescriptor output
      if returned.isNull then fail .nullDescriptor
      else
        let bytes ← read fun memory =>
          memory.readBytes returned.pointer.toInt32 returned.length.toInt32
        callVoid Export.guestStringFree .take [output]
        free input
        free output
        match Utf8.decode? bytes with
        | some echoed => return echoed
        | none => fail (.notText Export.guestEcho)

end Harness

end GuestHost

import GuestHost.Abi.Table
import GuestHost.Guest.Buffer
import GuestHost.Guest.Log
import GuestHost.Text.Quoted

/-!
# Greetings

The samples that only talk: fixed greetings, a greeting that passes a message on
and shows a scratch buffer, and the buffer and the number that are handed to the
host.
-/

namespace GuestHost.Sample

variable {σ : Type}

/-- Print the greeting of the `Hello` export. -/
def hello : Guest σ Int32 := do
  let _ ← Guest.printText "Hello from Wasm in Hyperlight \n"
  return 0

/-- Print the greeting of the `hello_world` export. -/
def plainHelloWorld : Guest σ Int32 := do
  let _ ← Guest.printText "Hello from Wasm in Hyperlight!\n"
  return 0

/-- Print the greeting of the `PrintHelloWorld` export. -/
def printHelloWorld : Guest σ Unit := do
  let _ ← Guest.printText "Hello World from Wasm!\n"

/-- What an address looks like in print. -/
def addressText (address : Address) : String :=
  "0x" ++ Quoted.hexDigits address

/-- Pass a message on, write into a scratch buffer and show its address and what
was written.  The scratch buffer is released again; if there is none to be had,
that is reported and the answer is -1. -/
def helloWorld (message : Bytes) : Guest σ Int32 := do
  let _ ← Guest.printText (Utf8.decodeLossy message ++ "\n")
  match ← OwnedBuffer.allocate Abi.scratchBufferSize with
  | .error error =>
    let _ ← Guest.log .error ("malloc buf failed: " ++ error.message)
    return -1
  | .ok scratch =>
    let _ ← Guest.printText ("buffer address: " ++ addressText scratch.address ++ "\n")
    let contents := Utf8.encode Abi.scratchContents
    scratch.write 0 contents
    let written := (← scratch.bytes).take contents.length
    let _ ← Guest.printText
      ("contents of buffer after snprintf: " ++ Utf8.decodeLossy written ++ "\n")
    scratch.release
    return 0

/-- Hand the payload that both sides know to the host. -/
def passBuffer : Guest σ Int32 :=
  Guest.sendBuffer Abi.hostBufferPayload

/-- Hand a number to the host's test function. -/
def callHostFunction (argument : Int32) : Guest σ Int32 :=
  Guest.callTest argument

end GuestHost.Sample

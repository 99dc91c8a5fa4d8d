import GuestHost.Abi.Signature
import GuestHost.Bytes

/-!
# The interface

The functions that every sample guest exports, in a fixed order, and the
functions that the host offers to it, with the few constants that both sides
know.
-/

namespace GuestHost

/-! ### The names of the exported functions -/

namespace Export

def hello : String := "Hello"
def helloWorld : String := "HelloWorld"
def passBuffer : String := "PassBufferAndLengthToHost"
def calcFib : String := "CalcFib"
def receiveByteArray : String := "ReceiveByteArray"
def printUsingHostPrint : String := "WasmPrintUsingHostPrint"
def printHelloWorld : String := "PrintHelloWorld"
def print : String := "Print"
def echo : String := "Echo"
def toUpper : String := "ToUpper"
def printUpper : String := "PrintUpper"
def keepBusy : String := "KeepCPUBusy"
def guestEcho : String := "guest_echo"
def guestStringFree : String := "guest_string_free"
def plainHelloWorld : String := "hello_world"
def add : String := "add"
def callHostFunction : String := "call_host_function"
def simdTest : String := "simd_test"
def malloc : String := "malloc"
def free : String := "free"

end Export

/-! ### The names of the host's functions -/

namespace Import

def print : String := "HostPrint"
def receiveBuffer : String := "HostFuncWithBufferAndLength"
def clock : String := "GetTimeSinceBootMicrosecond"
def test : String := "TestHostFunc"

end Import

/-! ### The interface -/

namespace Abi

/-- The module under whose name the host's functions are imported. -/
def importModule : String := "env"

/-- Every function that a guest has to export. -/
def exports : List ExportSpec := [
  ⟨Export.hello, [], [.i32], .none⟩,
  ⟨Export.helloWorld, [.i32], [.i32], .borrowed⟩,
  ⟨Export.passBuffer, [], [.i32], .none⟩,
  ⟨Export.calcFib, [.i32], [.i32], .none⟩,
  ⟨Export.receiveByteArray, [.i32, .i32], [.i32], .takesArgumentTransfersResult⟩,
  ⟨Export.printUsingHostPrint, [.i32], [.i32], .takesArgument⟩,
  ⟨Export.printHelloWorld, [], [], .none⟩,
  ⟨Export.print, [.i32], [], .takesArgument⟩,
  ⟨Export.echo, [.i32], [.i32], .transfersResult⟩,
  ⟨Export.toUpper, [.i32], [.i32], .inPlace⟩,
  ⟨Export.printUpper, [.i32], [], .takesArgument⟩,
  ⟨Export.keepBusy, [.i32], [.i32], .none⟩,
  ⟨Export.guestEcho, [.i32, .i32], [], .takesArgumentTransfersResult⟩,
  ⟨Export.guestStringFree, [.i32], [], .takesArgument⟩,
  ⟨Export.plainHelloWorld, [], [.i32], .none⟩,
  ⟨Export.add, [.i32, .i32], [.i32], .none⟩,
  ⟨Export.callHostFunction, [.i32], [.i32], .none⟩,
  ⟨Export.simdTest, [], [.i32], .none⟩,
  ⟨Export.malloc, [.i32], [.i32], .transfersResult⟩,
  ⟨Export.free, [.i32], [], .takesArgument⟩
]

/-- Every function that the host offers. -/
def imports : List ImportSpec := [
  ⟨Import.print, [.i32], [.i32]⟩,
  ⟨Import.receiveBuffer, [.i32, .i32], [.i32]⟩,
  ⟨Import.clock, [], [.i64]⟩,
  ⟨Import.test, [.i32], [.i32]⟩
]

/-- The exported function of a name. -/
def findExport (name : String) : Option ExportSpec :=
  exports.find? fun spec => spec.name == name

/-- The Fibonacci number that the busy loop computes in each round. -/
def busyLoopFibInput : Int32 := 10

/-- The number of rounds after which the busy loop's counter starts again. -/
def busyLoopCounterLimit : Int32 := Int32.maxValue

/-- The size of the greeting's scratch buffer in bytes. -/
def scratchBufferSize : Nat := 1024

/-- What the greeting writes into its scratch buffer. -/
def scratchContents : String := "1234"

/-- The buffer that the guest passes to the host: `Hello World!`. -/
def hostBufferPayload : Bytes :=
  [0x48, 0x65, 0x6C, 0x6C, 0x6F, 0x20, 0x57, 0x6F, 0x72, 0x6C, 0x64, 0x21]

end Abi

end GuestHost

/-!
# Settings

What a harness can be told: where the sample module is, how many bytes of a
printed string are kept, what is answered to a buffer, and which events are shown.
-/

namespace GuestHost

/-- The settings of a harness. -/
structure Settings where
  modulePath : String
  /-- The number of bytes of a printed string that are kept. -/
  maxLogLength : Nat
  /-- The answer to a buffer. -/
  bufferStatus : Int32
  logFilter : String
  deriving DecidableEq, Repr

namespace Settings

/-- What stands for the path of the sample module that is built along with the
harness. -/
def defaultModulePath : String := "<default>"

/-- The settings where nothing else is said. -/
def default : Settings where
  modulePath := defaultModulePath
  maxLogLength := 4096
  bufferStatus := 0
  logFilter := "info,wasm_guest=debug"

/-- Settings are good if something of a printed string is kept. -/
def isValid (settings : Settings) : Bool :=
  settings.maxLogLength != 0

end Settings

end GuestHost

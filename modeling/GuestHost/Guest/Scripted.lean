import GuestHost.Guest.Machine

/-!
# A host with a scripted clock

For clocks that go backwards, stand still or jump there is a host whose readings
are a list.  A reading past its end is counted, and panics.
-/

namespace GuestHost

/-- What is left of a scripted clock, and how often it was read. -/
structure Script where
  readings : List Int64
  clockReads : Nat := 0
  deriving DecidableEq, Repr

namespace Script

/-- The host that answers prints with `printAnswer`, buffers with `bufferStatus` and
the test function with twice its argument, modulo 2³². -/
def host (printAnswer bufferStatus : Int32) : Host Script where
  print _ script := (printAnswer, script)
  receiveBuffer _ script := (bufferStatus, script)
  clock script :=
    match script.readings with
    | [] => (.error .clockExhausted, { script with clockReads := script.clockReads + 1 })
    | reading :: rest => (.ok reading, ⟨rest, script.clockReads + 1⟩)
  test argument script := (.ok (argument * 2), script)

/-- No more rounds can be made than there are readings, and one that panics. -/
def rounds (script : Script) (_ms : Int32) : Nat :=
  script.readings.length + 1

end Script

end GuestHost

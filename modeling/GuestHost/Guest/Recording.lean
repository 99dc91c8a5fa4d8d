import GuestHost.Guest.Machine
import GuestHost.Text.Utf8

/-!
# A host that records

Guest code is tried out against a host that writes down what it is given: the
printed texts, ill-formed bytes replaced, and the buffers received.  Its clock
starts at zero and moves on by a fixed step with every reading; a step that would
carry it out of range is a panic, and that reading does not count.
-/

namespace GuestHost

/-- What a recording host has written down. -/
structure Recording where
  prints : List String := []
  received : List Bytes := []
  /-- The time of the next reading, in microseconds. -/
  now : Int64 := 0
  clockReads : Nat := 0
  deriving DecidableEq, Repr

namespace Recording

/-- A sum in 64 bits, which panics where it does not fit. -/
def addTime (a b : Int64) : Except Panic Int64 :=
  let sum := a.toInt + b.toInt
  if Int64.minValue.toInt ≤ sum ∧ sum ≤ Int64.maxValue.toInt then .ok (Int64.ofInt sum)
  else .error .additionOverflow

/-- Everything printed so far, as one text. -/
def output (recording : Recording) : String :=
  String.join recording.prints

/-- The recording host whose clock moves by `clockStep` and which answers every
buffer with `bufferStatus`.  A print is answered with the length of the recorded
text in bytes. -/
def host (clockStep : Int64) (bufferStatus : Int32) : Host Recording where
  print message recording :=
    let text := Utf8.decodeLossy message
    (Word.clamp text.utf8ByteSize, { recording with prints := recording.prints ++ [text] })
  receiveBuffer buffer recording :=
    (bufferStatus, { recording with received := recording.received ++ [buffer] })
  clock recording :=
    match addTime recording.now clockStep with
    | .error panic => (.error panic, recording)
    | .ok next =>
      (.ok recording.now, { recording with now := next, clockReads := recording.clockReads + 1 })
  test argument recording :=
    match Word.add? argument 1 with
    | some sum => (.ok sum, recording)
    | none => (.error .additionOverflow, recording)

/-- How many readings it takes until the clock has moved on by `ms` milliseconds or
has reached the end of its range.  With a step of zero it does neither, unless
there is nothing to wait for. -/
def rounds (clockStep : Int64) (recording : Recording) (ms : Int32) : Nat :=
  let budget := ms.toInt * 1000
  let step := clockStep.toInt
  if 0 < step then (budget / step).toNat + 2
  else if step = 0 then 1
  else ((recording.now.toInt - Int64.minValue.toInt) / -step).toNat + 2

end Recording

end GuestHost

import GuestHost.Abi.Table
import GuestHost.Guest.Log

/-!
# The busy loop

`keepBusy` computes a Fibonacci number over and over until the host's clock says
that a number of milliseconds has passed.  The rounds that end too early are
counted by an `IterationCounter`, which starts again at a limit and counts how
often it did.

The clock may be any: it need not advance, nor even go forwards.  So the loop is
given a number of rounds from outside, and stops when they are used up; with
enough of them it ends as the clock decides.
-/

namespace GuestHost.Sample

/-- Counts rounds up to a limit, and how often the limit was reached. -/
structure IterationCounter where
  count : Int32
  limit : Int32
  wraps : UInt32
  deriving DecidableEq, Repr

namespace IterationCounter

/-- A counter at zero.  Its limit is at least one. -/
def new (limit : Int32) : IterationCounter :=
  ⟨0, if limit < 1 then 1 else limit, 0⟩

/-- Count a round, and say whether the counter has started again. -/
def tick (counter : IterationCounter) : Except Panic (Bool × IterationCounter) :=
  if counter.count = Int32.maxValue then .error .additionOverflow
  else
    let count := counter.count + 1
    if counter.limit ≤ count then
      if counter.wraps.toNat + 1 < 2 ^ 32 then
        .ok (true, { counter with count := 0, wraps := counter.wraps + 1 })
      else .error .additionOverflow
    else .ok (false, { counter with count })

/-- Count `rounds` rounds, and add to `starts` how often the counter has started
again. -/
def run : (rounds starts : Nat) → IterationCounter → Except Panic (Nat × IterationCounter)
  | 0, starts, counter => .ok (starts, counter)
  | rounds + 1, starts, counter =>
    match counter.tick with
    | .error panic => .error panic
    | .ok (wrapped, counter) => run rounds (starts + wrapped.toNat) counter

end IterationCounter

/-- The difference of two times, the nearest time there is standing for one that is
out of range. -/
def elapsed (start now : Int64) : Int64 :=
  Int64.ofInt (max Int64.minValue.toInt (min Int64.maxValue.toInt (now.toInt - start.toInt)))

variable {σ : Type}

/-- What is logged when the counter starts again. -/
def wrapWarning : String := "Reached int max - reset iteration counter"

/-- Read the clock and count a round, until `budget` microseconds have passed since
`start`; then give the counter back.  At most `rounds` readings are made. -/
def spin (start budget : Int64) : (rounds : Nat) → IterationCounter → Guest σ IterationCounter
  | 0, _ => Attempt.stop .outOfRounds
  | rounds + 1, counter => do
    let now ← Guest.readClock
    if budget ≤ elapsed start now then return counter
    else
      match counter.tick with
      | .error panic => Attempt.stop (.panic panic)
      | .ok (wrapped, counter) =>
        if wrapped then
          let _ ← Guest.log .warn wrapWarning
        spin start budget rounds counter

/-- The summary of a busy loop. -/
def busySummary (ms : Int32) (counter : IterationCounter) : String :=
  s!"Kept CPU busy for {ms.toInt} ms using {counter.count.toInt} iterations of fib("
    ++ toString Abi.busyLoopFibInput.toInt ++ ") | wraps = " ++ toString counter.wraps.toNat

/-- The rounds that the world gives to a loop that waits for `ms` milliseconds. -/
def roundsFor (ms : Int32) : Guest σ Nat := fun world machine =>
  (.ok (world.rounds machine.host ms), machine)

/-- Keep busy for `ms` milliseconds by the host's clock, with a counter that starts
again at `limit`, and log a summary. -/
def keepBusyWithLimit (ms limit : Int32) : Guest σ Int32 := do
  let budget := Int64.ofInt (ms.toInt * 1000)
  let start ← Guest.readClock
  let counter ← spin start budget (← roundsFor ms) (IterationCounter.new limit)
  let _ ← Guest.log .info (busySummary ms counter)
  return ms

/-- Keep busy for `ms` milliseconds, with the limit that both sides know. -/
def keepBusy (ms : Int32) : Guest σ Int32 :=
  keepBusyWithLimit ms Abi.busyLoopCounterLimit

end GuestHost.Sample

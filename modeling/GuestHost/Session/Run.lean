import GuestHost.Guest.Recording
import GuestHost.Guest.Scripted
import GuestHost.Session.Steps

/-!
# Running a session

A session starts with an empty heap and no slots.  In each turn the system refuses
at most one request, and always one that is larger than any memory.  A turn is
reported by its answer, by what was printed and sent meanwhile and by the number
of live blocks; the session by the slots that are left, and by the blocks that are
still live when all of them have been released.
-/

namespace GuestHost

/-- The footprint from which on the system refuses. -/
def systemLimit : Nat := 2 ^ 61

/-- The system that refuses the request of the given number, and what is too large;
every other request is granted at a fresh address. -/
def SystemAllocator.refusing (refused : Option Nat) : SystemAllocator where
  place request heap footprint :=
    if refused = some request ∨ systemLimit ≤ footprint then none else some heap.freshAddress
  place_ne_zero := by
    intro request heap footprint address hplaced
    split at hplaced
    · exact absurd hplaced (by simp)
    · cases hplaced
      exact Nat.succ_ne_zero _
  find?_place := by
    intro request heap footprint address hplaced
    split at hplaced
    · exact absurd hplaced (by simp)
    · cases hplaced
      exact heap.find?_freshAddress

/-- A step and the number of the request that the system refuses meanwhile. -/
structure Turn where
  step : Step
  refused : Option Nat

/-- What a turn came to. -/
structure TurnReport where
  step : Step
  result : Except Refusal Reply
  prints : List Bytes
  received : List Bytes
  live : Nat

/-- What a session came to. -/
structure SessionReport (σ : Type) where
  turns : List TurnReport
  /-- The names of the slots that were left. -/
  slots : List String
  /-- The number of blocks left when all slots were released. -/
  leaked : Nat
  /-- The host at the end. -/
  host : σ

namespace TurnReport

/-- The printed messages among some events. -/
def printsOf (events : List Event) : List Bytes :=
  events.filterMap fun
    | .printed message => some message
    | _ => none

/-- The buffers sent among some events. -/
def sentOf (events : List Event) : List Bytes :=
  events.filterMap fun
    | .sent buffer => some buffer
    | _ => none

/-- What the line that shows an address starts with. -/
def addressLine : Bytes := Utf8.encode "buffer address: 0x"

/-- The line that stands for every line that shows an address. -/
def hiddenAddressLine : Bytes := Utf8.encode "buffer address: 0x<addr>\n"

/-- Does the step show the address of a scratch buffer in its second line? -/
def showsAddress : Step → Bool
  | .helloWorld _ | .greet _ => true
  | _ => false

/-- The prints, without the address that an allocator happened to choose. -/
def shownPrints (report : TurnReport) : List Bytes :=
  match showsAddress report.step, report.prints with
  | true, first :: second :: rest =>
    if addressLine.isPrefixOf second then first :: hiddenAddressLine :: rest
    else report.prints
  | _, prints => prints

end TurnReport

namespace Session

variable {σ : Type}

/-- Run a turn.  The requests of a turn are counted from one, and its journal starts
empty. -/
def runTurn (host : Host σ) (rounds : σ → Int32 → Nat) (caller : Caller σ) (turn : Turn) :
    TurnReport × Caller σ :=
  let world : World σ := ⟨SystemAllocator.refusing turn.refused, host, rounds⟩
  let start := { caller with machine := { caller.machine with requests := 0, journal := [] } }
  let (result, caller) := turn.step.run world start
  let events := caller.machine.journal.reverse
  (⟨turn.step, result, TurnReport.printsOf events, TurnReport.sentOf events,
    caller.machine.heap.size⟩, caller)

/-- Run turns one after another. -/
def runTurns (host : Host σ) (rounds : σ → Int32 → Nat) :
    Caller σ → List Turn → List TurnReport × Caller σ
  | caller, [] => ([], caller)
  | caller, turn :: turns =>
    let (report, caller) := runTurn host rounds caller turn
    let (reports, caller) := runTurns host rounds caller turns
    (report :: reports, caller)

/-- Release all slots. -/
def releaseAll (host : Host σ) (rounds : σ → Int32 → Nat) (caller : Caller σ) : Caller σ :=
  let world : World σ := ⟨SystemAllocator.refusing none, host, rounds⟩
  caller.slots.names.foldl (fun caller name => (drop name world caller).2) caller

/-- Run a session from the beginning. -/
def run (host : Host σ) (rounds : σ → Int32 → Nat) (start : σ) (turns : List Turn) :
    SessionReport σ :=
  let (reports, caller) := runTurns host rounds ⟨[], .start Heap.empty start⟩ turns
  let released := releaseAll host rounds caller
  ⟨reports, caller.slots.names, released.machine.heap.size, released.machine.host⟩

/-- Run a session with a recording host. -/
def runRecording (clockStep : Int64) (bufferStatus : Int32) (turns : List Turn) :
    SessionReport Recording :=
  run (Recording.host clockStep bufferStatus) (Recording.rounds clockStep) {} turns

/-- Run a session with a scripted clock. -/
def runScripted (printAnswer bufferStatus : Int32) (readings : List Int64)
    (turns : List Turn) : SessionReport Script :=
  run (Script.host printAnswer bufferStatus) Script.rounds ⟨readings, 0⟩ turns

/-- Is the recorded output what was printed, joined? -/
def outputIsPrints (report : SessionReport Recording) : Bool :=
  report.host.output ==
    String.join (report.turns.flatMap fun turn => turn.prints.map Utf8.decodeLossy)

end Session

end GuestHost

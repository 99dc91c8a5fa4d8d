import GuestHost.Guest.CString
import GuestHost.Guest.GuestString

/-!
# A caller of guest functions

A caller holds what it got from the guest in named *slots*: bare addresses,
buffers, C strings and strings by pointer and length.  A slot *owns* what it
holds.  To pass something to the guest, the caller either *takes* it out of its
slot, when the guest takes it over, or *lends* it and keeps the slot.

`Session` is the monad of a caller: it carries the slots along with the guest's
machine, and ends with a value or a refusal.  A refusal leaves slots and machine
as they are at that moment, and the caller can go on.
-/

namespace GuestHost

/-- What a slot holds. -/
inductive Holding
  | raw (address : Address)
  | buffer (buffer : OwnedBuffer)
  | cString (text : OwnedCString)
  | string (string : GuestString)
  deriving DecidableEq, Repr

/-- Why a step has no answer. -/
inductive Refusal
  /-- There is no slot of the name, or it holds something of another kind. -/
  | badSlot (name : String)
  /-- The range is not within the given number of bytes. -/
  | badRange (size : Nat)
  /-- The block in the slot cannot be lent as a C string: it holds no zero byte. -/
  | unterminated (name : String)
  /-- The guest refuses. -/
  | guest (error : GuestError)
  /-- The guest's computation stopped. -/
  | stopped (cause : Stop)
  deriving DecidableEq, Repr

/-- The slots by their names, no name twice. -/
abbrev Slots := List (String × Holding)

namespace Slots

/-- The slots without the one of a name. -/
def without (slots : Slots) (name : String) : Slots :=
  slots.filter fun slot => slot.1 != name

/-- Put something into the slot of a name, in the place of what was there. -/
def put (slots : Slots) (name : String) (holding : Holding) : Slots :=
  (name, holding) :: slots.without name

/-- The names of the slots, in ascending order. -/
def names (slots : Slots) : List String :=
  (slots.map Prod.fst).mergeSort

end Slots

/-- A caller and the machine of the guest that it calls. -/
structure Caller (σ : Type) where
  slots : Slots
  machine : Machine σ

/-- A computation of a caller. -/
abbrev Session (σ α : Type) : Type :=
  Attempt (World σ) (Caller σ) Refusal α

namespace Session

variable {σ α : Type}

/-- Have the guest compute. -/
def call (computation : Guest σ α) : Session σ α := fun world caller =>
  let (outcome, machine) := computation world caller.machine
  (outcome.mapError .stopped, { caller with machine })

/-- Have the guest compute what it may refuse. -/
def request (computation : Guest σ (Except GuestError α)) : Session σ α := do
  match ← call computation with
  | .ok value => return value
  | .error error => Attempt.stop (.guest error)

/-! ### Slots -/

/-- What the slot of a name holds. -/
def find? (name : String) : Session σ (Option Holding) :=
  Attempt.look fun caller => caller.slots.lookup name

/-- Empty the slot of a name, without releasing anything. -/
def clear (name : String) : Session σ Unit :=
  Attempt.change fun caller => { caller with slots := caller.slots.without name }

/-- Let the slot of a name hold something, without releasing anything. -/
def put (name : String) (holding : Holding) : Session σ Unit :=
  Attempt.change fun caller => { caller with slots := caller.slots.put name holding }

/-- Release what a slot held. -/
def releaseHolding : Holding → Guest σ Unit
  | .raw address => Guest.release address
  | .buffer buffer => buffer.release
  | .cString text => text.release
  | .string string => string.release

/-- Release what the slot of a name holds and empty it; false if there is none. -/
def drop (name : String) : Session σ Bool := do
  match ← find? name with
  | none => return false
  | some holding =>
    clear name
    call (releaseHolding holding)
    return true

/-- Keep something in the slot of a name, releasing what was there before. -/
def keep (name : String) (holding : Holding) : Session σ Unit := do
  let _ ← drop name
  put name holding

/-! ### Lending and taking -/

/-- The address in a raw slot, which keeps it; zero where no slot is named. -/
def lendRaw : Option String → Session σ Address
  | none => return 0
  | some name => do
    match ← find? name with
    | some (.raw address) => return address
    | _ => Attempt.stop (.badSlot name)

/-- The address in a raw slot, whose slot is emptied; zero where no slot is named. -/
def takeRaw : Option String → Session σ Address
  | none => return 0
  | some name => do
    let address ← lendRaw (some name)
    clear name
    return address

/-- The address in a raw slot whose block starts with a C string. -/
def lendCString : Option String → Session σ Address
  | none => return 0
  | some name => do
    let address ← lendRaw (some name)
    if address = 0 then return 0
    else
      match Bytes.firstNul? (← call (Guest.load address)).contents with
      | some _ => return address
      | none => Attempt.stop (.unterminated name)

/-- The buffer in a slot, which keeps it. -/
def lendBuffer (name : String) : Session σ OwnedBuffer := do
  match ← find? name with
  | some (.buffer buffer) => return buffer
  | _ => Attempt.stop (.badSlot name)

/-- The buffer in a slot, which is emptied. -/
def takeBuffer (name : String) : Session σ OwnedBuffer := do
  let buffer ← lendBuffer name
  clear name
  return buffer

/-- The C string in a slot, which keeps it. -/
def lendText (name : String) : Session σ OwnedCString := do
  match ← find? name with
  | some (.cString text) => return text
  | _ => Attempt.stop (.badSlot name)

/-- The C string in a slot, which is emptied. -/
def takeText (name : String) : Session σ OwnedCString := do
  let text ← lendText name
  clear name
  return text

/-- The string in a slot, which keeps it; none where no slot is named. -/
def lendString : Option String → Session σ (Option GuestString)
  | none => return none
  | some name => do
    match ← find? name with
    | some (.string string) => return some string
    | _ => Attempt.stop (.badSlot name)

/-- Let a slot hold what has become of the string that it lent. -/
def returnString : Option String → Option GuestString → Session σ Unit
  | some name, some string => put name (.string string)
  | _, _ => return ()

/-! ### Places for strings

A guest function is handed the place of a string.  For the time of a call, what a
slot holds stands at the place of the slot's name.
-/

/-- Lay a string that a slot has lent out at its place. -/
def layOut : Option String → Option GuestString → Session σ (Option Place)
  | some name, some string => do
    call (Guest.writeString name string)
    return some name
  | _, _ => return none

/-- The string that stands at a place. -/
def pickUp : Option Place → Session σ (Option GuestString)
  | some place => do return some (← call (Guest.readString place))
  | none => return none

end Session

end GuestHost

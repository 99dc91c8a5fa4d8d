import GuestHost.Settings.Found

/-!
# Findings as settings

A finding suits a setting that takes a text if it is a scalar, and one that takes an
integer if it is a scalar other than a text, or a text that names a switch or an
integer.  A number goes to the nearest integer that the setting can hold.
-/

namespace GuestHost.Settings

/-- The integers that a setting can hold at first: words of 64 bits, with or without a
sign. -/
inductive Integers where
  | signed
  | unsigned
  deriving DecidableEq, Repr

namespace Integers

/-- The least of the integers. -/
def least : Integers → Int
  | .signed => Literal.leastSigned64
  | .unsigned => 0

/-- The greatest of the integers. -/
def greatest : Integers → Int
  | .signed => Literal.greatestSigned64
  | .unsigned => Literal.greatestUnsigned64

/-- Read one of the integers. -/
def read? : Integers → List Char → Option Int
  | .signed => Literal.signed64?
  | .unsigned => Literal.unsigned64?

/-- The one of the integers that a scalar comes to. -/
def ofScalar (integers : Integers) : Scalar → Except Unsuitable Int
  | .boolean value => .ok (if value then 1 else 0)
  | .integer value => if value < integers.least then .error (.negative value) else .ok value
  | .number value => .ok (value.toIntWithin integers.least integers.greatest)
  | .text value =>
    match Scalar.switch? value, integers.read? value.toList with
    | some state, _ => .ok state
    | none, some number => .ok number
    | none, none => .error (.notInteger value)

end Integers

/-- The text that a setting takes from what was found under its key. -/
def suitText (key : String) : Found → Except Refusal String
  | .scalar value _ => .ok value.toText
  | .sequence origin => .error (.unsuitable (.sequence .text) key origin)
  | .mapping => .error (.unsuitable (.mapping .text) key none)

/-- The integer that a setting takes from what was found under its key. -/
def suitInteger (integers : Integers) (key : String) : Found → Except Refusal Int
  | .scalar value origin =>
    (integers.ofScalar value).mapError fun reason => .unsuitable reason key (some origin)
  | .sequence origin => .error (.unsuitable (.sequence .integer) key origin)
  | .mapping => .error (.unsuitable (.mapping .integer) key none)

/-- The count that a setting takes from what was found under its key. -/
def suitCount (key : String) (found : Found) : Except Refusal Nat :=
  (suitInteger .unsigned key found).map Int.toNat

/-- The word that a setting takes from what was found under its key. -/
def suitWord (key : String) (found : Found) : Except Refusal Int32 :=
  match suitInteger .signed key found with
  | .ok value =>
    if -2 ^ 31 ≤ value ∧ value < 2 ^ 31 then .ok (Int32.ofInt value)
    else .error (.unsuitable (.beyondWord value) key none)
  | .error refusal => .error refusal

/-- A setting: what its key was found to be, or what it is by default. -/
def pick {α : Type} (findings : Findings) (key : String)
    (suit : String → Found → Except Refusal α) (byDefault : α) : Except Refusal α :=
  match findings.find? key with
  | some found => suit key found
  | none => .ok byDefault

/-- The settings that findings come to. -/
def ofFindings (byDefault : Settings) (findings : Findings) : Except Refusal Settings := do
  let modulePath ← pick findings "module_path" suitText byDefault.modulePath
  let maxLogLength ← pick findings "max_log_len" suitCount byDefault.maxLogLength
  let bufferStatus ← pick findings "buffer_status" suitWord byDefault.bufferStatus
  let logFilter ← pick findings "log_filter" suitText byDefault.logFilter
  return { modulePath, maxLogLength, bufferStatus, logFilter }

end GuestHost.Settings

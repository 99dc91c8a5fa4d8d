/-!
# Signatures and ownership

What the two sides agree on: for every function of the guest its name, the types
of its parameters and results, and who owns the buffers that it takes and gives;
for every function of the host its name and types.  A pointer is a 32-bit
integer, and no other types than the two integer types cross the boundary.
-/

namespace GuestHost

/-- The types of what crosses the boundary. -/
inductive ValueType
  | i32
  | i64
  deriving DecidableEq, Repr

/-- The name of a type. -/
def ValueType.name : ValueType → String
  | .i32 => "I32"
  | .i64 => "I64"

/-- Who owns a buffer that crosses the boundary. -/
inductive Ownership
  /-- Only numbers cross. -/
  | none
  /-- The host keeps the buffer and the guest reads it during the call. -/
  | borrowed
  /-- The guest takes the argument over and has to release it. -/
  | takesArgument
  /-- The result becomes the caller's. -/
  | transfersResult
  /-- The guest takes the argument over, and a new result becomes the caller's. -/
  | takesArgumentTransfersResult
  /-- The buffer is changed in place and stays the host's. -/
  | inPlace
  deriving DecidableEq, Repr

namespace Ownership

/-- Does the caller have to release the result? -/
def callerFreesResult : Ownership → Bool
  | .transfersResult | .takesArgumentTransfersResult => true
  | _ => false

/-- Has the guest released the argument when the call is over? -/
def guestFreesArgument : Ownership → Bool
  | .takesArgument | .takesArgumentTransfersResult => true
  | _ => false

end Ownership

/-- A function that a guest has to export. -/
structure ExportSpec where
  name : String
  params : List ValueType
  results : List ValueType
  ownership : Ownership
  deriving DecidableEq, Repr

/-- A function that the host offers. -/
structure ImportSpec where
  name : String
  params : List ValueType
  results : List ValueType
  deriving DecidableEq, Repr

end GuestHost

import GuestHost.Word

/-!
# String descriptors

A string can cross the boundary as a *descriptor*: where its bytes stand in guest
memory and how many they are, as two words, eight bytes in all.  A descriptor
that points to address zero is null.
-/

namespace GuestHost

/-- Where a string stands in guest memory, and its length in bytes. -/
structure Descriptor where
  pointer : UInt32
  length : UInt32
  deriving DecidableEq, Repr

namespace Descriptor

/-- The size of a written descriptor in bytes. -/
def size : Nat := 8

/-- The descriptor of no string at all. -/
def zero : Descriptor := ⟨0, 0⟩

/-- A descriptor that points to address zero is null, whatever its length says. -/
def isNull (descriptor : Descriptor) : Bool :=
  descriptor.pointer == 0

/-- The eight bytes of a descriptor: the pointer, then the length. -/
def toBytes (descriptor : Descriptor) : Bytes :=
  Word.toBytes descriptor.pointer ++ Word.toBytes descriptor.length

/-- The descriptor written in eight bytes; any other number of bytes is none. -/
def ofBytes? : Bytes → Option Descriptor
  | [p₀, p₁, p₂, p₃, l₀, l₁, l₂, l₃] =>
    some ⟨Word.ofBytes p₀ p₁ p₂ p₃, Word.ofBytes l₀ l₁ l₂ l₃⟩
  | _ => none

/-- A descriptor is written in eight bytes. -/
@[simp] theorem length_toBytes (descriptor : Descriptor) :
    descriptor.toBytes.length = size := rfl

end Descriptor

end GuestHost

import GuestHost.Word

/-!
# Linear memory

A guest's memory, seen from outside, is a number of bytes from address zero on,
handed out in pages.  `slice?` reads a stretch of bytes and `overwrite?` changes
one; both refuse a stretch that does not lie inside, and a stretch of no bytes
lies inside up to the very end.  `nulFrom?` looks for the first zero byte.

Bytes are given by their addresses.  What stands beyond the size is never read.
-/

namespace GuestHost

/-- Memory of `size` bytes. -/
structure LinearMemory where
  size : Nat
  byteAt : Nat → UInt8

namespace LinearMemory

/-- The size of a page in bytes. -/
def pageSize : Nat := 65536

/-- Memory of the given number of pages, all zeros. -/
def zeros (pages : Nat) : LinearMemory :=
  ⟨pages * pageSize, fun _ => 0⟩

/-- The `length` bytes from `start` on. -/
def slice (memory : LinearMemory) (start length : Nat) : Bytes :=
  (List.range' start length).map memory.byteAt

/-- The `length` bytes from `start` on, if they lie inside. -/
def slice? (memory : LinearMemory) (start length : Nat) : Option Bytes :=
  if start + length ≤ memory.size then some (memory.slice start length) else none

/-- The memory with other bytes from `start` on. -/
def overwrite (memory : LinearMemory) (start : Nat) (patch : Bytes) : LinearMemory :=
  let cells := patch.toArray
  { memory with
    byteAt := fun address =>
      if start ≤ address then (cells[address - start]?).getD (memory.byteAt address)
      else memory.byteAt address }

/-- The memory with other bytes from `start` on, if they lie inside. -/
def overwrite? (memory : LinearMemory) (start : Nat) (patch : Bytes) : Option LinearMemory :=
  if start + patch.length ≤ memory.size then some (memory.overwrite start patch) else none

/-- The first of `count` addresses from `address` on at which a zero byte stands. -/
def searchNul (memory : LinearMemory) : (count address : Nat) → Option Nat
  | 0, _ => none
  | count + 1, address =>
    if memory.byteAt address = 0 then some address else memory.searchNul count (address + 1)

/-- The address of the first zero byte at or after `start`. -/
def nulFrom? (memory : LinearMemory) (start : Nat) : Option Nat :=
  memory.searchNul (memory.size - start) start

/-- The word at an address, if its four bytes lie inside. -/
def word? (memory : LinearMemory) (address : Nat) : Option UInt32 :=
  (memory.slice? address 4).bind Word.first?

/-! ### What the operations do -/

@[simp] theorem length_slice (memory : LinearMemory) (start length : Nat) :
    (memory.slice start length).length = length := by
  simp [slice]

@[simp] theorem size_overwrite (memory : LinearMemory) (start : Nat) (patch : Bytes) :
    (memory.overwrite start patch).size = memory.size := rfl

/-- A byte outside of the stretch stays what it was. -/
theorem byteAt_overwrite_outside (memory : LinearMemory) {start address : Nat} {patch : Bytes}
    (houtside : address < start ∨ start + patch.length ≤ address) :
    (memory.overwrite start patch).byteAt address = memory.byteAt address := by
  simp only [overwrite]
  split
  · have hpast : patch.toArray.size ≤ address - start := by simp; omega
    rw [Array.getElem?_eq_none hpast, Option.getD_none]
  · rfl

/-- A byte inside of the stretch is the patch's. -/
theorem byteAt_overwrite_inside (memory : LinearMemory) (start : Nat) {patch : Bytes}
    {index : Nat} (hinside : index < patch.length) :
    (memory.overwrite start patch).byteAt (start + index) = patch[index] := by
  simp [overwrite, hinside]

end LinearMemory

end GuestHost

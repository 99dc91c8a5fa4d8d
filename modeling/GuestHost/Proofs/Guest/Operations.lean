import GuestHost.Proofs.Guest.Machine

/-!
# What becomes of a block until it is released

There are ten ways for guest code to reach its heap, its places and its host, which `Operation`
lists; whatever else a guest does between two moments, its machine has gone through some list of
these, and each of them may have found another world.

What one operation can do to the heap is said once, by `Operation.Changes`, and
`Operation.changes_run` proves it operation by operation.  Two invariants follow, each from one
case for every change.  As long as nobody releases it, a block stays where it is and keeps its
capacity (`Machine.find?_through`), so that its owner can release it at any time, as one of the
footprint it was granted with.  And as long as nothing is changed but that block's bytes, all
other blocks stay as they were (`Machine.erase_through`), so that releasing it undoes the
allocation.
-/

namespace GuestHost

variable {σ : Type}

/-- One of the ways in which guest code reaches its heap or its host. -/
inductive Operation
  | allocate (capacity : Nat)
  | load (address : Address)
  | store (address : Address) (offset : Nat) (patch : Bytes)
  | release (address : Address)
  | readString (place : Place)
  | writeString (place : Place) (string : GuestString)
  | print (message : Bytes)
  | sendBuffer (buffer : Bytes)
  | readClock
  | callTest (argument : Int32)
  deriving DecidableEq, Repr

namespace Operation

/-- The machine that an operation leaves behind, also where it stops. -/
def run (operation : Operation) (world : World σ) (machine : Machine σ) : Machine σ :=
  match operation with
  | .allocate capacity => (Guest.allocate capacity world machine).2
  | .load address => (Guest.load address world machine).2
  | .store address offset patch => (Guest.store address offset patch world machine).2
  | .release address => (Guest.release address world machine).2
  | .readString place => (Guest.readString place world machine).2
  | .writeString place string => (Guest.writeString place string world machine).2
  | .print message => (Guest.print message world machine).2
  | .sendBuffer buffer => (Guest.sendBuffer buffer world machine).2
  | .readClock => (Guest.readClock world machine).2
  | .callTest argument => (Guest.callTest argument world machine).2

/-- An operation that changes at most the bytes of the block at an address. -/
def OnlyWrites (address : Address) : Operation → Prop
  | .allocate _ | .release _ => False
  | .store other _ _ => other = address
  | _ => True

theorem OnlyWrites.ne_release {address : Address} {operation : Operation}
    (hwrites : operation.OnlyWrites address) : operation ≠ .release address := by
  rintro rfl
  exact hwrites

/-! ## One operation -/

/-- What an operation can do to a heap. -/
inductive Changes (heap : Heap) : Operation → Heap → Prop
  | nothing (operation : Operation) : Changes heap operation heap
  | grant {capacity : Nat} {address : Address} (block : Block)
      (hfresh : heap.find? address = none) :
      Changes heap (.allocate capacity) (heap.insert address block hfresh)
  | patch {address : Address} {offset : Nat} {bytes : Bytes} {block : Block} (patched : Block)
      (hfound : heap.find? address = some block) (hsame : patched.capacity = block.capacity) :
      Changes heap (.store address offset bytes) (heap.update address fun _ => patched)
  | free {address : Address} : Changes heap (.release address) (heap.erase address)

/-- Each operation does one of these things; those that do not reach the heap do nothing. -/
theorem changes_run (operation : Operation) (world : World σ) (machine : Machine σ) :
    operation.Changes machine.heap (operation.run world machine).heap := by
  cases operation with
  | allocate capacity =>
      cases hanswer : world.answer machine capacity with
      | none =>
          rw [run, Guest.allocate_run_denied hanswer, Machine.heap_deny]
          exact .nothing _
      | some address =>
          have hfresh := World.fresh_of_answer hanswer
          obtain ⟨block, -, hrun⟩ := Guest.allocate_run_granted hanswer
          rw [run, hrun, Machine.heap_grant hfresh]
          exact .grant block hfresh
  | load address =>
      simp only [run, Guest.load]
      split <;> exact .nothing _
  | store address offset patch =>
      cases hfound : machine.heap.find? address with
      | none =>
          simp only [run, Guest.store, hfound]
          exact .nothing _
      | some block =>
          -- bytes that do not fit are not written, not even in part
          by_cases hfits : offset + patch.length ≤ block.capacity
          · rw [run, Guest.store_run hfound hfits]
            exact .patch (block.write offset patch hfits) hfound rfl
          · simp only [run, Guest.store, hfound, if_neg hfits]
            exact .nothing _
  | release address =>
      simp only [run, Guest.release]
      split
      · exact .nothing _
      · split
        · exact .nothing _
        · exact .free
  | readString place => exact .nothing _
  | writeString place string => exact .nothing _
  | print message => exact .nothing _
  | sendBuffer buffer => exact .nothing _
  | readClock => exact .nothing _
  | callTest argument => exact .nothing _

variable {operation : Operation} {before after : Heap} {address : Address} {block : Block}

/-- Nobody but who releases a block takes it away or changes its capacity. -/
theorem Changes.find? (hchanges : operation.Changes before after)
    (hkept : operation ≠ .release address) (hfound : before.find? address = some block) :
    ∃ later, after.find? address = some later ∧ later.capacity = block.capacity := by
  cases hchanges with
  | nothing => exact ⟨block, hfound, rfl⟩
  | @grant _ other _ hfresh =>
      -- a block is granted where none stands
      have hother : address ≠ other := by
        rintro rfl
        rw [hfresh] at hfound
        cases hfound
      exact ⟨block, by rw [Heap.find?_insert, if_neg hother, hfound], rfl⟩
  | @patch other _ _ old patched hold hsame =>
      by_cases hother : address = other
      · subst hother
        obtain rfl : old = block := Option.some.inj (hold.symm.trans hfound)
        exact ⟨patched, by rw [Heap.find?_update, if_pos rfl, hfound]; rfl, hsame⟩
      · exact ⟨block, by rw [Heap.find?_update, if_neg hother, hfound], rfl⟩
  | @free other =>
      have hother : address ≠ other := fun hother => hkept (hother ▸ rfl)
      exact ⟨block, by rw [Heap.find?_erase, if_neg hother, hfound], rfl⟩

/-- Where only its own bytes are written, the other blocks are those there were. -/
theorem Changes.erase (hchanges : operation.Changes before after)
    (hwrites : operation.OnlyWrites address) : after.erase address = before.erase address := by
  cases hchanges with
  | nothing => rfl
  | grant => exact hwrites.elim
  | patch =>
      obtain rfl := hwrites
      exact Heap.erase_update ..
  | free => exact hwrites.elim

end Operation

/-! ## Any number of operations -/

namespace Machine

variable {machine : Machine σ} {address : Address} {block : Block}
  {steps : List (World σ × Operation)}

/-- The machine after some operations, each in a world of its own. -/
def through (machine : Machine σ) : List (World σ × Operation) → Machine σ
  | [] => machine
  | (world, operation) :: steps => (operation.run world machine).through steps

/-- A block that is not released stays where it is, with the capacity it has. -/
theorem find?_through (hkept : ∀ step ∈ steps, step.2 ≠ .release address)
    (hfound : machine.heap.find? address = some block) :
    ∃ later, (machine.through steps).heap.find? address = some later ∧
      later.capacity = block.capacity := by
  induction steps generalizing machine block with
  | nil => exact ⟨block, hfound, rfl⟩
  | cons step steps ih =>
      obtain ⟨world, operation⟩ := step
      obtain ⟨hfirst, hrest⟩ := List.forall_mem_cons.mp hkept
      obtain ⟨next, hnext, hsame⟩ :=
        (operation.changes_run world machine).find? hfirst hfound
      obtain ⟨later, hlater, hcapacity⟩ := ih hrest hnext
      exact ⟨later, hlater, hcapacity.trans hsame⟩

/-- What is changed in one block alone does not show when that block is gone. -/
theorem erase_through (hwrites : ∀ step ∈ steps, step.2.OnlyWrites address) :
    (machine.through steps).heap.erase address = machine.heap.erase address := by
  induction steps generalizing machine with
  | nil => rfl
  | cons step steps ih =>
      obtain ⟨world, operation⟩ := step
      obtain ⟨hfirst, hrest⟩ := List.forall_mem_cons.mp hwrites
      exact (ih hrest).trans ((operation.changes_run world machine).erase hfirst)

end Machine

end GuestHost

import GuestHost.Proofs.Guest.Machine

/-!
# Replaying a journal

The journal of a machine says at which address a block was granted or handed back,
and of which footprint.  It can be replayed without the heap: `standing` follows
which blocks are live, and comes to nothing as soon as a block is granted where one
is live, or handed back where none is, or as one of another footprint.

So a journal that can be replayed (`Machine.Replays`) is a proof that no block was released
twice, nor one that never was.  Each operation on the heap keeps it so (`Replays.grant`,
`Replays.free`, `Replays.patch`).
-/

namespace GuestHost

/-- The blocks that are live after some events, the latest event first, with their
footprints.  There is no answer if one of the events was not possible. -/
def standing : List Event → Option (List (Address × Nat))
  | [] => some []
  | .allocated address footprint :: earlier =>
    (standing earlier).bind fun blocks =>
      if address ∈ blocks.map Prod.fst then none else some ((address, footprint) :: blocks)
  | .released address footprint :: earlier =>
    (standing earlier).bind fun blocks =>
      if (address, footprint) ∈ blocks then some (blocks.filter fun block => block.1 != address)
      else none
  | .printed _ :: earlier => standing earlier
  | .sent _ :: earlier => standing earlier

/-- The live blocks of a heap with their footprints. -/
def Heap.footprints (heap : Heap) : List (Address × Nat) :=
  heap.blocks.map fun entry => (entry.1, entry.2.footprint)

namespace Heap

variable {heap : Heap} {address : Address} {block : Block}

theorem map_fst_footprints : heap.footprints.map Prod.fst = heap.live := by
  rw [footprints, live, List.map_map]
  rfl

theorem mem_footprints (hfound : heap.find? address = some block) :
    (address, block.footprint) ∈ heap.footprints :=
  List.mem_map.mpr ⟨_, mem_blocks_iff.mpr hfound, rfl⟩

theorem footprints_erase :
    (heap.erase address).footprints = heap.footprints.filter fun block => block.1 != address := by
  simp only [footprints, erase, List.filter_map]
  rfl

/-- Other bytes for a block leave all footprints as they are. -/
theorem footprints_update {patched : Block} (hfound : heap.find? address = some block)
    (hcapacity : patched.capacity = block.capacity) :
    (heap.update address fun _ => patched).footprints = heap.footprints := by
  simp only [footprints, update, List.map_map]
  apply List.map_congr_left
  rintro ⟨key, other⟩ hmem
  by_cases hkey : key = address
  · subst hkey
    have hother : block = other :=
      Option.some.inj (hfound.symm.trans (mem_blocks_iff.mp hmem))
    subst hother
    simp [Block.footprint_eq_capacity, hcapacity]
  · simp [hkey]

end Heap

namespace Machine

variable {σ : Type} {machine : Machine σ} {address : Address} {block : Block}

/-- The journal can be replayed, and comes to the blocks that are live. -/
def Replays (machine : Machine σ) : Prop :=
  standing machine.journal = some machine.heap.footprints

theorem Replays.grant (hreplays : machine.Replays)
    (hfresh : machine.heap.find? address = none) : (machine.grant address block).Replays := by
  have habsent : address ∉ machine.heap.footprints.map Prod.fst := by
    rw [Heap.map_fst_footprints]
    exact Heap.find?_eq_none_iff.mp hfresh
  unfold Replays at hreplays ⊢
  rw [journal_grant, heap_grant hfresh, standing, hreplays]
  simp only [Option.bind_some, if_neg habsent]
  rfl

theorem Replays.free (hreplays : machine.Replays)
    (hfound : machine.heap.find? address = some block) : (machine.free address block).Replays := by
  have hmem := Heap.mem_footprints hfound
  rw [Block.footprint_eq_capacity] at hmem
  unfold Replays at hreplays ⊢
  rw [journal_free, heap_free, Heap.footprints_erase, standing, hreplays]
  simp only [Option.bind_some, if_pos hmem]

theorem Replays.patch {patched : Block} (hreplays : machine.Replays)
    (hfound : machine.heap.find? address = some block)
    (hcapacity : patched.capacity = block.capacity) :
    (machine.patch address patched).Replays := by
  unfold Replays at hreplays ⊢
  rw [journal_patch, hreplays, Machine.patch, Heap.footprints_update hfound hcapacity]

end Machine

end GuestHost

import GuestHost.Guest.Machine
import GuestHost.Proofs.Lookup

/-!
# What the primitive operations do to a machine

Guest code reaches its heap and its host through a handful of operations.  Each
of them, where it succeeds, takes the machine to another one that can be written
down: `grant` adds a block, `free` removes one, `patch` puts other bytes into
one, `say` has the host print, `readTime` has it read its clock, `setString` puts
a string at a place.  This file defines these machines and proves, for each
operation, the equation that says which of them it ends with (`allocate_run_granted`,
`release_run`, `store_run`, `print_run` and so on).

Everything about a longer computation follows from such equations: its run is
rewritten, operation by operation, to a value and a machine, and what has become
of the heap and of the journal is read off that machine.  Whether the system
grants the next request is `World.answer`; nothing else is left open.

Blocks that come and go within one computation leave no trace in these equations: a
block that was just granted takes other bytes as those it was granted with
(`Machine.patch_grant`, `store_run_grant`).
-/

namespace GuestHost

/-! ## The view of a heap -/

namespace Heap

theorem mem_blocks_iff {heap : Heap} {address : Address} {block : Block} :
    (address, block) ∈ heap.blocks ↔ heap.find? address = some block :=
  (lookup_eq_some_iff_mem heap.nodup).symm

theorem mem_live_iff {heap : Heap} {address : Address} :
    address ∈ heap.live ↔ ∃ block, heap.find? address = some block := by
  rw [← Option.ne_none_iff_exists', Ne, find?_eq_none_iff, Decidable.not_not]

theorem mem_live_of_find? {heap : Heap} {address : Address} {block : Block}
    (hfound : heap.find? address = some block) : address ∈ heap.live :=
  mem_live_iff.mpr ⟨block, hfound⟩

/-- A change of the block at an address matters only for what it makes of that block. -/
theorem update_congr {heap : Heap} {address : Address} {block : Block} {f g : Block → Block}
    (hfound : heap.find? address = some block) (hsame : f block = g block) :
    heap.update address f = heap.update address g := by
  simp only [update, Heap.mk.injEq]
  apply List.map_congr_left
  rintro ⟨key, other⟩ hmem
  by_cases hkey : key = address
  · subst hkey
    have hother : block = other :=
      Option.some.inj (hfound.symm.trans (mem_blocks_iff.mp hmem))
    simp [← hother, hsame]
  · simp [hkey]

/-- A block that is changed into itself leaves the heap as it was. -/
theorem update_self {heap : Heap} {address : Address} {block : Block}
    (hfound : heap.find? address = some block) :
    heap.update address (fun _ => block) = heap := by
  calc heap.update address (fun _ => block)
      = heap.update address id := update_congr hfound rfl
    _ = heap := by simp [update]

/-- What a block was changed into does not matter when it is removed. -/
theorem erase_update (heap : Heap) (address : Address) (f : Block → Block) :
    (heap.update address f).erase address = heap.erase address := by
  simp only [update, erase, Heap.mk.injEq]
  induction heap.blocks with
  | nil => rfl
  | cons entry rest ih =>
      rw [List.map_cons]
      by_cases hkey : entry.1 = address
      · rw [if_pos hkey, List.filter_cons_of_neg (by simpa using hkey),
          List.filter_cons_of_neg (by simpa using hkey), ih]
      · rw [if_neg hkey, List.filter_cons_of_pos (by simpa using hkey),
          List.filter_cons_of_pos (by simpa using hkey), ih]

/-- Changing a block that has just been added is adding the changed block. -/
theorem update_insert {heap : Heap} {address : Address} {block : Block}
    (hfresh : heap.find? address = none) (f : Block → Block) :
    (heap.insert address block hfresh).update address f =
      heap.insert address (f block) hfresh := by
  have hrest : heap.blocks.map (fun entry =>
      if entry.1 = address then (entry.1, f entry.2) else entry) = heap.blocks := by
    refine (List.map_congr_left fun entry hentry => if_neg fun hkey => ?_).trans (List.map_id _)
    exact find?_eq_none_iff.mp hfresh (hkey ▸ List.mem_map_of_mem hentry)
  simp only [update, insert, List.map_cons, if_true, hrest]

end Heap

/-! ## The footprint of a block -/

theorem footprint?_eq_some_iff {capacity footprint : Nat} :
    footprint? capacity = some footprint ↔
      capacity + blockHeaderSize ≤ maxFootprint ∧ capacity + blockHeaderSize = footprint := by
  simp [footprint?]

namespace Block

/-- A block is granted with the footprint that its capacity comes to. -/
theorem footprint_eq_capacity (block : Block) :
    block.footprint = block.capacity + blockHeaderSize :=
  (footprint?_eq_some_iff.mp block.footprint_eq).2.symm

end Block

/-! ## The machines that operations end with -/

variable {σ α : Type}

namespace Machine

/-- The system has granted a block. -/
def grant (machine : Machine σ) (address : Address) (block : Block) : Machine σ :=
  { machine with
    heap :=
      if hfresh : machine.heap.find? address = none then machine.heap.insert address block hfresh
      else machine.heap
    requests := machine.requests + 1
    journal := .allocated address block.footprint :: machine.journal }

/-- The system has refused a block of the given capacity, or was not asked for it. -/
def deny (machine : Machine σ) (capacity : Nat) : Machine σ :=
  if footprint? capacity = none then machine
  else { machine with requests := machine.requests + 1 }

/-- A block has been handed back to the system. -/
def free (machine : Machine σ) (address : Address) (block : Block) : Machine σ :=
  { machine with
    heap := machine.heap.erase address
    journal := .released address (block.capacity + blockHeaderSize) :: machine.journal }

/-- Whatever block stands at an address has been handed back. -/
def drop (machine : Machine σ) (address : Address) : Machine σ :=
  if address = 0 then machine
  else (machine.heap.find? address).elim machine (machine.free address)

/-- The block at an address has been given other bytes. -/
def patch (machine : Machine σ) (address : Address) (block : Block) : Machine σ :=
  { machine with heap := machine.heap.update address fun _ => block }

/-- The host has printed a message. -/
def say (machine : Machine σ) (host : Host σ) (message : Bytes) : Machine σ :=
  { machine with
    host := (host.print message machine.host).2
    journal := .printed message :: machine.journal }

/-- A string has been written to a place. -/
def setString (machine : Machine σ) (place : Place) (string : GuestString) : Machine σ :=
  { machine with
    strings := fun other => if other = place then string else machine.strings other }

/-- The host's clock has been read. -/
def readTime (machine : Machine σ) (host : Host σ) : Machine σ :=
  { machine with host := (host.clock machine.host).2 }

section Views

variable (machine : Machine σ) (address other : Address) (block : Block) (capacity : Nat)
  (host : Host σ) (message : Bytes)

@[simp] theorem heap_deny : (machine.deny capacity).heap = machine.heap := by
  unfold deny
  split <;> rfl

@[simp] theorem journal_deny : (machine.deny capacity).journal = machine.journal := by
  unfold deny
  split <;> rfl

@[simp] theorem host_deny : (machine.deny capacity).host = machine.host := by
  unfold deny
  split <;> rfl

@[simp] theorem heap_say : (machine.say host message).heap = machine.heap := rfl

@[simp] theorem heap_free : (machine.free address block).heap = machine.heap.erase address := rfl

@[simp] theorem journal_free : (machine.free address block).journal =
    .released address (block.capacity + blockHeaderSize) :: machine.journal := rfl

@[simp] theorem journal_patch : (machine.patch address block).journal = machine.journal := rfl

@[simp] theorem live_patch : (machine.patch address block).heap.live = machine.heap.live :=
  Heap.live_update ..

@[simp] theorem journal_grant : (machine.grant address block).journal =
    .allocated address block.footprint :: machine.journal := rfl

@[simp] theorem strings_deny : (machine.deny capacity).strings = machine.strings := by
  unfold deny
  split <;> rfl

@[simp] theorem strings_drop : (machine.drop address).strings = machine.strings := by
  unfold drop
  split
  · rfl
  · cases machine.heap.find? address <;> rfl

@[simp] theorem heap_setString (place : Place) (string : GuestString) :
    (machine.setString place string).heap = machine.heap := rfl

@[simp] theorem journal_setString (place : Place) (string : GuestString) :
    (machine.setString place string).journal = machine.journal := rfl

@[simp] theorem strings_setString_self (place : Place) (string : GuestString) :
    (machine.setString place string).strings place = string := if_pos rfl

theorem find?_patch : (machine.patch address block).heap.find? other =
    if other = address then (machine.heap.find? other).map (fun _ => block)
    else machine.heap.find? other :=
  Heap.find?_update ..

variable {machine address block}

theorem strings_setString_of_ne {place other : Place} (hother : other ≠ place)
    (string : GuestString) :
    (machine.setString place string).strings other = machine.strings other := if_neg hother

theorem drop_of_find? (hfound : machine.heap.find? address = some block) (hnull : address ≠ 0) :
    machine.drop address = machine.free address block := by
  rw [drop, if_neg hnull, hfound]
  rfl

theorem find?_patch_self (patched : Block) (hfound : machine.heap.find? address = some block) :
    (machine.patch address patched).heap.find? address = some patched := by
  rw [find?_patch, if_pos rfl, hfound]
  rfl

theorem find?_drop_of_ne {other : Address} (hother : other ≠ address) :
    (machine.drop address).heap.find? other = machine.heap.find? other := by
  unfold drop
  split
  · rfl
  · cases machine.heap.find? address with
    | none => rfl
    | some block =>
        simp only [Option.elim_some, heap_free]
        rw [Heap.find?_erase, if_neg hother]

theorem heap_grant (hfresh : machine.heap.find? address = none) :
    (machine.grant address block).heap = machine.heap.insert address block hfresh :=
  dif_pos hfresh

theorem live_grant (hfresh : machine.heap.find? address = none) :
    (machine.grant address block).heap.live = address :: machine.heap.live := by
  rw [heap_grant hfresh, Heap.live_insert]

theorem find?_grant (hfresh : machine.heap.find? address = none) :
    (machine.grant address block).heap.find? other =
      if other = address then some block else machine.heap.find? other := by
  rw [heap_grant hfresh, Heap.find?_insert]

theorem find?_grant_self (hfresh : machine.heap.find? address = none) :
    (machine.grant address block).heap.find? address = some block := by
  rw [find?_grant address hfresh, if_pos rfl]

/-- The blocks there are stay when another one is granted. -/
theorem find?_grant_of_find? {granted : Block} (hfresh : machine.heap.find? address = none)
    (hfound : machine.heap.find? other = some block) :
    (machine.grant address granted).heap.find? other = some block := by
  rw [find?_grant _ hfresh, if_neg, hfound]
  rintro rfl
  rw [hfresh] at hfound
  cases hfound

/-- A block that is given the bytes it has stays as it was. -/
theorem patch_self (hfound : machine.heap.find? address = some block) :
    machine.patch address block = machine := by
  rw [patch, Heap.update_self hfound]

/-- A block is handed back in the same way whatever bytes it was given before. -/
theorem free_patch (patched : Block) {released : Block}
    (hcapacity : released.capacity = block.capacity) :
    (machine.patch address patched).free address released = machine.free address block := by
  simp only [free, patch, Heap.erase_update, hcapacity]

/-- Other bytes for a block that was just granted are the bytes it is granted with. -/
theorem patch_grant {patched : Block} (hfresh : machine.heap.find? address = none)
    (hcapacity : patched.capacity = block.capacity) :
    (machine.grant address block).patch address patched = machine.grant address patched := by
  have hfootprint : block.footprint = patched.footprint := by
    rw [Block.footprint_eq_capacity, Block.footprint_eq_capacity, hcapacity]
  simp only [patch, grant, dif_pos hfresh, Heap.update_insert hfresh, hfootprint]

end Views

end Machine

/-- The address at which the system grants the next request, if that is for a block
of the given capacity. -/
def World.answer (world : World σ) (machine : Machine σ) (capacity : Nat) : Option Address :=
  (footprint? capacity).bind (world.system.place (machine.requests + 1) machine.heap)

namespace World

variable {world : World σ} {machine : Machine σ} {capacity : Nat} {address : Address}

theorem answer_ne_zero (hanswer : world.answer machine capacity = some address) :
    address ≠ 0 := by
  obtain ⟨footprint, -, hplaced⟩ := Option.bind_eq_some_iff.mp hanswer
  exact world.system.place_ne_zero hplaced

theorem fresh_of_answer (hanswer : world.answer machine capacity = some address) :
    machine.heap.find? address = none := by
  obtain ⟨footprint, -, hplaced⟩ := Option.bind_eq_some_iff.mp hanswer
  exact world.system.find?_place hplaced

end World

/-! ## The operations -/

namespace Guest

variable {world : World σ} {machine : Machine σ} {address : Address} {block : Block}

theorem allocate_run_denied {capacity : Nat} (hanswer : world.answer machine capacity = none) :
    allocate capacity world machine =
      (.ok (.error (.allocationFailed capacity)), machine.deny capacity) := by
  unfold allocate
  split
  · next hfootprint => rw [Machine.deny, if_pos hfootprint]
  · next footprint hfootprint =>
      have hplaced : world.system.place (machine.requests + 1) machine.heap footprint = none := by
        simpa [World.answer, hfootprint] using hanswer
      rw [Machine.deny, if_neg (by simp [hfootprint])]
      dsimp only
      split
      · rfl
      · next hsome => simp [hplaced] at hsome

theorem allocate_run_granted {capacity : Nat}
    (hanswer : world.answer machine capacity = some address) :
    ∃ block : Block, block.contents = List.replicate capacity 0 ∧
      allocate capacity world machine = (.ok (.ok address), machine.grant address block) := by
  have hfresh := World.fresh_of_answer hanswer
  unfold allocate
  split
  · next hfootprint => simp [World.answer, hfootprint] at hanswer
  · next footprint hfootprint =>
      -- the answer is the system's own once the footprint is known
      have hplaced : world.system.place (machine.requests + 1) machine.heap footprint =
          some address := by
        simpa [World.answer, hfootprint] using hanswer
      dsimp only
      split
      · next hnone => simp [hplaced] at hnone
      · next placed hsome =>
          obtain rfl : placed = address := Option.some.inj (hsome.symm.trans hplaced)
          refine ⟨Block.zeroed capacity footprint hfootprint, rfl, ?_⟩
          simp [Machine.grant, dif_pos hfresh, Block.zeroed]

theorem load_run (hfound : machine.heap.find? address = some block) :
    load address world machine = (.ok block, machine) := by
  simp [load, hfound]

theorem capacityOf_run (hfound : machine.heap.find? address = some block) :
    capacityOf address world machine = (.ok block.capacity, machine) := by
  rw [capacityOf, Attempt.bind_of_ok (load_run hfound)]
  rfl

theorem store_run {offset : Nat} {patch : Bytes}
    (hfound : machine.heap.find? address = some block)
    (hfits : offset + patch.length ≤ block.capacity) :
    store address offset patch world machine =
      (.ok (), machine.patch address (block.write offset patch hfits)) := by
  -- the bound is checked once more inside the heap, at the block that was found
  have hheap : (machine.heap.update address fun block =>
      if hfits : offset + patch.length ≤ block.capacity then block.write offset patch hfits
      else block) = machine.heap.update address fun _ => block.write offset patch hfits :=
    Heap.update_congr hfound (by simp only [dif_pos hfits])
  simp only [store, hfound, if_pos hfits, Machine.patch, hheap]

/-- What is stored into a block that was just granted is what it is granted with. -/
theorem store_run_grant {offset : Nat} {patch : Bytes}
    (hfresh : machine.heap.find? address = none) (hfits : offset + patch.length ≤ block.capacity) :
    store address offset patch world (machine.grant address block) =
      (.ok (), machine.grant address (block.write offset patch hfits)) := by
  have hcapacity : (block.write offset patch hfits).capacity = block.capacity := rfl
  rw [store_run (Machine.find?_grant_self hfresh) hfits, Machine.patch_grant hfresh hcapacity]

theorem release_run (hfound : machine.heap.find? address = some block) (hnull : address ≠ 0) :
    release address world machine = (.ok (), machine.free address block) := by
  simp [release, hnull, hfound, Machine.free]

/-- Releasing the null pointer does nothing. -/
theorem release_run_null : release 0 world machine = (.ok (), machine) := rfl

theorem release_run_drop (hlive : address = 0 ∨ ∃ block, machine.heap.find? address = some block) :
    release address world machine = (.ok (), machine.drop address) := by
  by_cases hnull : address = 0
  · subst hnull
    exact release_run_null
  · obtain ⟨block, hfound⟩ := hlive.resolve_left hnull
    rw [release_run hfound hnull, Machine.drop_of_find? hfound hnull]

theorem readString_run (place : Place) :
    readString place world machine = (.ok (machine.strings place), machine) := rfl

theorem writeString_run (place : Place) (string : GuestString) :
    writeString place string world machine = (.ok (), machine.setString place string) := rfl

theorem readClock_run {now : Int64} (hclock : (world.host.clock machine.host).1 = .ok now) :
    readClock world machine = (.ok now, machine.readTime world.host) := by
  simp only [readClock, hclock]
  rfl

theorem readClock_run_panic {cause : Panic}
    (hclock : (world.host.clock machine.host).1 = .error cause) :
    readClock world machine = (.error (.panic cause), machine.readTime world.host) := by
  simp only [readClock, hclock]
  rfl

theorem print_run (message : Bytes) :
    print message world machine =
      (.ok (world.host.print message machine.host).1, machine.say world.host message) := rfl

end Guest

end GuestHost

import GuestHost.Proofs.Guest.Machine

/-!
# The effect of a call on the blocks

A call of an exported function releases one block at most that was there before,
leaves one block at most behind that was not, and writes into one at most.  An
`Effect` says which these are and that everything else is as it was: every other
block has its bytes, and has not been released and granted again meanwhile.

Effects follow a call through its machines, from the machine in the beginning, on
which nothing has happened (`Effect.refl`), by one rule for each operation.

* `Effect.grant`, `Effect.free`, `Effect.patch`: a block is granted, and a block of
  the beginning is released or written into.
* `Effect.freeMade`, `Effect.patchMade`: the same for the block that the call itself
  was granted, which leaves no trace once that is released.
* `Effect.drop`, `Effect.dropMade`: a string's block is released, if it has one.
* `Effect.congr`: whatever else happens does not count.
-/

namespace GuestHost

/-- How often a block at an address has been released. -/
def releases (address : Address) (journal : List Event) : Nat :=
  journal.countP fun
    | .released other _ => other == address
    | _ => false

theorem releases_released (address other : Address) (footprint : Nat) (journal : List Event) :
    releases address (.released other footprint :: journal) =
      releases address journal + if other = address then 1 else 0 := by
  simp [releases, List.countP_cons]

variable {σ : Type}

/-- Between two machines the block `freed` has been released, `made` has been granted
and is still there, and the bytes of `written` may have changed. -/
structure Effect (before after : Machine σ) (freed made written : Option Address) : Prop where
  /-- Of the blocks that were there, only `freed` has been released, and only once. -/
  released : ∀ address ∈ before.heap.live,
    releases address after.journal =
      releases address before.journal + if freed = some address then 1 else 0
  /-- The other blocks are still there, with their bytes unless they have been written. -/
  kept : ∀ address block, before.heap.find? address = some block → freed ≠ some address →
    ∃ left : Block, after.heap.find? address = some left ∧ left.capacity = block.capacity ∧
      (written ≠ some address → left = block)
  gone : ∀ address, freed = some address → after.heap.find? address = none
  fresh : ∀ address, made = some address →
    address ∈ after.heap.live ∧ address ∉ before.heap.live
  new : ∀ address ∈ after.heap.live, address ∉ before.heap.live → made = some address

namespace Effect

variable {before middle : Machine σ} {freed made written : Option Address} {address : Address}
  {block : Block}

/-- Nothing has happened in the beginning. -/
theorem refl (machine : Machine σ) : Effect machine machine none none none where
  released := by simp
  kept := fun _ block hfound _ => ⟨block, hfound, rfl, fun _ => rfl⟩
  gone := nofun
  fresh := nofun
  new := fun _ hlive habsent => absurd hlive habsent

/-- An operation that leaves the heap alone and releases nothing. -/
theorem congr {after : Machine σ} (heffect : Effect before middle freed made written)
    (hheap : after.heap = middle.heap)
    (hjournal : ∀ address, releases address after.journal = releases address middle.journal) :
    Effect before after freed made written where
  released := by
    intro address hlive
    rw [hjournal]
    exact heffect.released address hlive
  kept := hheap ▸ heffect.kept
  gone := hheap ▸ heffect.gone
  fresh := hheap ▸ heffect.fresh
  new := hheap ▸ heffect.new

theorem say (heffect : Effect before middle freed made written) (host : Host σ)
    (message : Bytes) : Effect before (middle.say host message) freed made written :=
  heffect.congr rfl fun _ => rfl

theorem deny (heffect : Effect before middle freed made written) (capacity : Nat) :
    Effect before (middle.deny capacity) freed made written :=
  heffect.congr (Machine.heap_deny ..) fun _ => by rw [Machine.journal_deny]

theorem setString (heffect : Effect before middle freed made written) (place : Place)
    (string : GuestString) : Effect before (middle.setString place string) freed made written :=
  heffect.congr (Machine.heap_setString ..) fun _ => by rw [Machine.journal_setString]

/-- A block is granted before any other is released. -/
theorem grant (heffect : Effect before middle none none written)
    (hfresh : middle.heap.find? address = none) (hbefore : before.heap.find? address = none) :
    Effect before (middle.grant address block) none (some address) written where
  released := heffect.released
  kept := by
    intro other kept hfound hfreed
    obtain ⟨left, hleft, hrest⟩ := heffect.kept other kept hfound hfreed
    exact ⟨left, Machine.find?_grant_of_find? _ hfresh hleft, hrest⟩
  gone := nofun
  fresh := by
    intro other hmade
    obtain rfl := Option.some.inj hmade
    exact ⟨Heap.mem_live_of_find? (Machine.find?_grant_self hfresh),
      Heap.find?_eq_none_iff.mp hbefore⟩
  new := by
    intro other hlive habsent
    rw [Machine.live_grant hfresh] at hlive
    rcases List.mem_cons.mp hlive with rfl | hlive
    · rfl
    · exact absurd (heffect.new other hlive habsent) nofun

/-- A block that was there in the beginning is released. -/
theorem free (heffect : Effect before middle none made written)
    (hfound : before.heap.find? address = some block) (released : Block) :
    Effect before (middle.free address released) (some address) made written where
  released := by
    intro other hlive
    rw [Machine.journal_free, releases_released, heffect.released other hlive]
    simp
  kept := by
    intro other kept hkept hfreed
    obtain ⟨left, hleft, hrest⟩ := heffect.kept other kept hkept nofun
    refine ⟨left, ?_, hrest⟩
    rw [Machine.heap_free, Heap.find?_erase, if_neg, hleft]
    rintro rfl
    exact hfreed rfl
  gone := by
    intro other hfreed
    obtain rfl := Option.some.inj hfreed
    rw [Machine.heap_free, Heap.find?_erase, if_pos rfl]
  fresh := by
    intro other hmade
    obtain ⟨hlive, habsent⟩ := heffect.fresh other hmade
    refine ⟨?_, habsent⟩
    -- what was made was not there in the beginning, so it is not what is released
    rw [Machine.heap_free, Heap.live_erase, List.mem_filter]
    refine ⟨hlive, bne_iff_ne.mpr ?_⟩
    rintro rfl
    exact habsent (Heap.mem_live_of_find? hfound)
  new := by
    intro other hlive habsent
    rw [Machine.heap_free, Heap.live_erase, List.mem_filter] at hlive
    exact heffect.new other hlive.1 habsent

/-- The block that was granted is released again. -/
theorem freeMade (heffect : Effect before middle freed (some address) written)
    (released : Block) : Effect before (middle.free address released) freed none written where
  released := by
    intro other hlive
    -- a block of the beginning is not the one that was made
    have hother : other ≠ address := by
      rintro rfl
      exact (heffect.fresh other rfl).2 hlive
    rw [Machine.journal_free, releases_released, if_neg (Ne.symm hother), Nat.add_zero]
    exact heffect.released other hlive
  kept := by
    intro other kept hkept hfreed
    obtain ⟨left, hleft, hrest⟩ := heffect.kept other kept hkept hfreed
    refine ⟨left, ?_, hrest⟩
    rw [Machine.heap_free, Heap.find?_erase, if_neg, hleft]
    rintro rfl
    exact (heffect.fresh other rfl).2 (Heap.mem_live_of_find? hkept)
  gone := by
    intro other hfreed
    rw [Machine.heap_free, Heap.find?_erase, heffect.gone other hfreed]
    split <;> rfl
  fresh := nofun
  new := by
    intro other hlive habsent
    rw [Machine.heap_free, Heap.live_erase, List.mem_filter] at hlive
    -- whatever is new was made, and that is what has just been released
    have hmade := heffect.new other hlive.1 habsent
    exact absurd (Option.some.inj hmade).symm (bne_iff_ne.mp hlive.2)

/-- A block is written into that was there in the beginning. -/
theorem patch {patched : Block} (heffect : Effect before middle freed made none)
    (hfound : middle.heap.find? address = some block)
    (hcapacity : patched.capacity = block.capacity) :
    Effect before (middle.patch address patched) freed made (some address) where
  released := heffect.released
  kept := by
    intro other kept hkept hfreed
    obtain ⟨left, hleft, hsize, hsame⟩ := heffect.kept other kept hkept hfreed
    rw [Machine.find?_patch]
    by_cases hother : other = address
    · subst hother
      -- no bytes are promised of the block, only that it has its size
      obtain rfl : block = left := Option.some.inj (hfound.symm.trans hleft)
      refine ⟨patched, ?_, hcapacity.trans hsize, fun hwritten => absurd rfl hwritten⟩
      rw [if_pos rfl, hfound]
      rfl
    · rw [if_neg hother]
      exact ⟨left, hleft, hsize, fun _ => hsame nofun⟩
  gone := by
    intro other hfreed
    rw [Machine.find?_patch, heffect.gone other hfreed]
    split <;> rfl
  fresh := by
    intro other hmade
    rw [Machine.live_patch]
    exact heffect.fresh other hmade
  new := by
    intro other hlive
    rw [Machine.live_patch] at hlive
    exact heffect.new other hlive

/-- The block that was granted is written into. -/
theorem patchMade (heffect : Effect before middle freed (some address) written)
    (patched : Block) :
    Effect before (middle.patch address patched) freed (some address) written where
  released := heffect.released
  kept := by
    -- what was there in the beginning is not the block that was granted
    intro other kept hkept hfreed
    obtain ⟨left, hleft, hrest⟩ := heffect.kept other kept hkept hfreed
    refine ⟨left, ?_, hrest⟩
    rw [Machine.find?_patch, if_neg, hleft]
    rintro rfl
    exact (heffect.fresh other rfl).2 (Heap.mem_live_of_find? hkept)
  gone := by
    intro other hfreed
    rw [Machine.find?_patch, heffect.gone other hfreed]
    split <;> rfl
  fresh := by
    intro other hmade
    rw [Machine.live_patch]
    exact heffect.fresh other hmade
  new := by
    intro other hlive
    rw [Machine.live_patch] at hlive
    exact heffect.new other hlive

/-- Whatever string's block is released, if the string has one. -/
theorem drop (heffect : Effect before middle none made written) {pointer : Address}
    (hlive : pointer = 0 ∨ ∃ block, before.heap.find? pointer = some block) :
    Effect before (middle.drop pointer) (if pointer = 0 then none else some pointer) made
      written := by
  by_cases hnull : pointer = 0
  · subst hnull
    exact heffect
  · obtain ⟨block, hfound⟩ := hlive.resolve_left hnull
    obtain ⟨left, hleft, -⟩ := heffect.kept pointer block hfound nofun
    rw [if_neg hnull, Machine.drop_of_find? hleft hnull]
    exact heffect.free hfound left

/-- The copy that nobody wants is released. -/
theorem dropMade (heffect : Effect before middle freed (some address) written)
    (hnull : address ≠ 0) : Effect before (middle.drop address) freed none written := by
  obtain ⟨block, hfound⟩ := Heap.mem_live_iff.mp (heffect.fresh address rfl).1
  rw [Machine.drop_of_find? hfound hnull]
  exact heffect.freeMade block

end Effect

end GuestHost

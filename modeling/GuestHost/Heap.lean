import GuestHost.Bytes

/-!
# The guest's heap

A guest's heap is made of *blocks*, each with an address of its own.  In front of
its bytes a block has a hidden header that records its *capacity*, so that a bare
address is enough to read, bound and release it.  What the system is asked for is
the *footprint*: header and bytes together, up to a fixed limit.

`Heap.find?` is the view through which the operations are described: `insert`
adds a block at an address that is not in use, `erase` removes one and `write`
changes the bytes of one, each leaving all other blocks alone.
-/

namespace GuestHost

/-- Where a block stands.  Address zero is the null pointer, never a block's. -/
abbrev Address := Nat

/-- The size of the hidden header in front of a block. -/
def blockHeaderSize : Nat := 8

/-- The largest footprint the system can be asked for: the largest signed 64-bit
number, rounded down to a multiple of eight. -/
def maxFootprint : Nat := 2 ^ 63 - 8

/-- What the system is asked for to make a block of the given capacity, if that
is not too much to ask for. -/
def footprint? (capacity : Nat) : Option Nat :=
  if capacity + blockHeaderSize ≤ maxFootprint then some (capacity + blockHeaderSize) else none

/-- An allocated block: the capacity in its hidden header, its bytes, and the
footprint it was granted with. -/
structure Block where
  capacity : Nat
  contents : Bytes
  footprint : Nat
  length_contents : contents.length = capacity
  footprint_eq : footprint? capacity = some footprint
  deriving DecidableEq

namespace Block

/-- A fresh block holds zeros. -/
def zeroed (capacity footprint : Nat) (hgranted : footprint? capacity = some footprint) : Block :=
  ⟨capacity, List.replicate capacity 0, footprint, List.length_replicate, hgranted⟩

/-- Overwrite bytes of a block from `offset` on, within its capacity. -/
def write (block : Block) (offset : Nat) (patch : Bytes)
    (hfits : offset + patch.length ≤ block.capacity) : Block :=
  { block with
    contents := block.contents.splice offset patch
    length_contents := by
      rw [Bytes.length_splice _ _ _ (by rw [block.length_contents]; exact hfits)]
      exact block.length_contents }

end Block

/-- The live blocks by their addresses, no two at one address. -/
structure Heap where
  blocks : List (Address × Block)
  nodup : (blocks.map Prod.fst).Nodup

namespace Heap

/-- The heap without any block. -/
def empty : Heap := ⟨[], List.nodup_nil⟩

/-- The block at an address. -/
def find? (heap : Heap) (address : Address) : Option Block :=
  heap.blocks.lookup address

/-- The addresses of the live blocks. -/
def live (heap : Heap) : List Address :=
  heap.blocks.map Prod.fst

/-- The number of live blocks. -/
def size (heap : Heap) : Nat :=
  heap.blocks.length

theorem find?_eq_none_iff {heap : Heap} {address : Address} :
    heap.find? address = none ↔ address ∉ heap.live := by
  simp only [find?, live]
  induction heap.blocks with
  | nil => simp
  | cons entry rest ih =>
    obtain ⟨key, block⟩ := entry
    by_cases hsame : address = key
    · simp [hsame]
    · simp [List.lookup_cons, hsame, ih, beq_eq_false_iff_ne.mpr hsame]

/-- Add a block at an address that no live block has. -/
def insert (heap : Heap) (address : Address) (block : Block)
    (hfresh : heap.find? address = none) : Heap where
  blocks := (address, block) :: heap.blocks
  nodup := by
    rw [List.map_cons, List.nodup_cons]
    exact ⟨find?_eq_none_iff.mp hfresh, heap.nodup⟩

/-- Remove the block at an address. -/
def erase (heap : Heap) (address : Address) : Heap where
  blocks := heap.blocks.filter fun entry => entry.1 != address
  nodup := heap.nodup.sublist (List.Sublist.map _ List.filter_sublist)

/-- Change the block at an address. -/
def update (heap : Heap) (address : Address) (change : Block → Block) : Heap where
  blocks := heap.blocks.map fun entry =>
    if entry.1 = address then (entry.1, change entry.2) else entry
  nodup := by
    have hsame : (heap.blocks.map fun entry =>
        if entry.1 = address then (entry.1, change entry.2) else entry).map Prod.fst
          = heap.blocks.map Prod.fst := by
      rw [List.map_map]
      apply List.map_congr_left
      intro entry _
      simp only [Function.comp]
      split <;> rfl
    rw [hsame]
    exact heap.nodup

/-- An address above every address in use. -/
def freshAddress (heap : Heap) : Address :=
  heap.live.foldl max 0 + 1

/-! ### What the operations do to the view -/

theorem find?_insert (heap : Heap) (address other : Address) (block : Block)
    (hfresh : heap.find? address = none) :
    (heap.insert address block hfresh).find? other =
      if other = address then some block else heap.find? other := by
  by_cases hsame : other = address
  · simp [find?, insert, hsame]
  · simp [find?, insert, List.lookup_cons, hsame, beq_eq_false_iff_ne.mpr hsame]

theorem find?_erase (heap : Heap) (address other : Address) :
    (heap.erase address).find? other =
      if other = address then none else heap.find? other := by
  simp only [find?, erase]
  induction heap.blocks with
  | nil => simp
  | cons entry rest ih =>
    obtain ⟨key, block⟩ := entry
    by_cases hkey : key = address
    · by_cases hsame : other = address
      · simpa [List.filter_cons, hkey, hsame] using ih
      · have hapart : (other == address) = false := beq_eq_false_iff_ne.mpr hsame
        simp [hkey, List.lookup_cons, hsame, hapart] at ih ⊢
        exact ih
    · by_cases hsame : other = key
      · simp [hkey, hsame]
      · have hapart : (other == key) = false := beq_eq_false_iff_ne.mpr hsame
        simp [hkey, List.lookup_cons, hapart] at ih ⊢
        exact ih

theorem find?_update (heap : Heap) (address other : Address) (change : Block → Block) :
    (heap.update address change).find? other =
      if other = address then (heap.find? other).map change else heap.find? other := by
  simp only [find?, update]
  induction heap.blocks with
  | nil => simp
  | cons entry rest ih =>
    obtain ⟨key, block⟩ := entry
    by_cases hsame : other = key
    · by_cases hhere : key = address
      · simp [hhere, hsame]
      · simp [hhere, hsame]
    · have hapart : (other == key) = false := beq_eq_false_iff_ne.mpr hsame
      by_cases hhere : key = address
      · simp [hhere, List.lookup_cons, hhere ▸ hapart] at ih ⊢
        exact ih
      · simp [hhere, List.lookup_cons, hapart] at ih ⊢
        exact ih

/-- The blocks stay at their addresses when one of them changes. -/
@[simp] theorem live_update (heap : Heap) (address : Address) (change : Block → Block) :
    (heap.update address change).live = heap.live := by
  simp only [live, update, List.map_map]
  apply List.map_congr_left
  intro entry _
  simp only [Function.comp]
  split <;> rfl

@[simp] theorem live_insert (heap : Heap) (address : Address) (block : Block)
    (hfresh : heap.find? address = none) :
    (heap.insert address block hfresh).live = address :: heap.live := rfl

theorem live_erase (heap : Heap) (address : Address) :
    (heap.erase address).live = heap.live.filter (· != address) := by
  simp only [live, erase]
  induction heap.blocks with
  | nil => rfl
  | cons entry rest ih =>
    by_cases hkey : entry.1 = address <;> simp [hkey, ih]

/-- Removing the block that was added last gives the heap back. -/
theorem erase_insert (heap : Heap) (address : Address) (block : Block)
    (hfresh : heap.find? address = none) :
    (heap.insert address block hfresh).erase address = heap := by
  have habsent := find?_eq_none_iff.mp hfresh
  have hsame : heap.blocks.filter (fun entry => entry.1 != address) = heap.blocks := by
    rw [List.filter_eq_self]
    intro entry hmember
    have : entry.1 ≠ address := fun heq =>
      habsent (heq ▸ List.mem_map_of_mem hmember)
    simpa using this
  cases heap
  simp only [erase, insert, List.filter_cons, bne_self_eq_false, Bool.false_eq_true, if_false,
    Heap.mk.injEq]
  exact hsame

theorem le_foldl_max (numbers : List Nat) (start : Nat) :
    start ≤ numbers.foldl max start ∧ ∀ n ∈ numbers, n ≤ numbers.foldl max start := by
  induction numbers generalizing start with
  | nil => simp
  | cons head rest ih =>
    obtain ⟨hstart, hbound⟩ := ih (max start head)
    refine ⟨by rw [List.foldl_cons]; omega, fun n hmember => ?_⟩
    rw [List.foldl_cons]
    rcases List.mem_cons.mp hmember with rfl | hrest
    · omega
    · exact hbound n hrest

/-- The fresh address is no live block's. -/
theorem find?_freshAddress (heap : Heap) : heap.find? heap.freshAddress = none := by
  rw [find?_eq_none_iff]
  intro hmember
  have := (le_foldl_max heap.live 0).2 _ hmember
  simp only [freshAddress] at this
  omega

end Heap

end GuestHost

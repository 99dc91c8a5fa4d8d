import GuestHost.Proofs.Guest.Handles
import GuestHost.Proofs.Ownership.Journal
import GuestHost.Session.Caller

/-!
# Who owns which block

A machine's *accounts* are a list of holdings, addresses and handles, by which its
live blocks are held (`Accounts`): every live block by exactly one of them, and no
holding without its block.  A holding also says something about its block, such as
where a C string ends; this has to be true (`Holding.Fits`).

This is the invariant of guest memory.  It says nothing about who has the holdings:
a caller keeps some in its slots, the guest has others in hand while it computes,
and some are lost to everybody.  Each operation of a machine is matched by one on
the accounts.  Granting a block opens a holding (`Accounts.grant`) and releasing one
closes it (`Accounts.free`); what is written into a block has to agree with its
holding (`Accounts.patch`).
-/

namespace GuestHost

namespace Holding

/-- Where the block of a holding stands. -/
def address : Holding → Address
  | .raw address => address
  | .buffer owned => owned.address
  | .cString text => text.buffer.address
  | .string view => view.pointer

/-- The addresses that a holding owns: one, or none if it is the null pointer. -/
def addresses (holding : Holding) : List Address :=
  if holding.address = 0 then [] else [holding.address]

/-- What a holding says of its block is true. -/
def Describes : Holding → Block → Prop
  | .raw _, _ => True
  | .buffer owned, block => owned.length ≤ block.capacity
  | .cString text, block =>
    text.length < text.buffer.length ∧ text.buffer.length ≤ block.capacity ∧
      block.contents[text.length]? = some 0
  | .string view, block => view.length ≤ block.capacity

/-- A holding owns a live block that it describes.  Only a string by pointer and
length may be null instead. -/
inductive Fits (heap : Heap) : Holding → Prop
  | null (length : Nat) : Fits heap (.string ⟨0, length⟩)
  | block {holding : Holding} (block : Block) (hfound : heap.find? holding.address = some block)
      (hnull : holding.address ≠ 0) (hdescribes : holding.Describes block) : Fits heap holding

@[simp] theorem addresses_of_ne {holding : Holding} (hnull : holding.address ≠ 0) :
    holding.addresses = [holding.address] := if_neg hnull

@[simp] theorem addresses_of_eq {holding : Holding} (hnull : holding.address = 0) :
    holding.addresses = [] := if_pos hnull

theorem mem_addresses {holding : Holding} {address : Address} :
    address ∈ holding.addresses ↔ address ≠ 0 ∧ holding.address = address := by
  unfold addresses
  split
  · next hnull =>
      simp only [List.not_mem_nil, false_iff, not_and, hnull]
      exact fun hne heq => hne heq.symm
  · next hnull =>
      rw [List.mem_singleton]
      exact ⟨fun heq => ⟨heq ▸ hnull, heq.symm⟩, fun h => h.2.symm⟩

/-- A holding fits as long as its own block stays as it is. -/
theorem Fits.congr {heap after : Heap} {holding : Holding} (hfits : holding.Fits heap)
    (hsame : holding.address ≠ 0 → after.find? holding.address = heap.find? holding.address) :
    holding.Fits after := by
  cases hfits with
  | null length => exact .null length
  | block block hfound hnull hdescribes =>
      exact .block block ((hsame hnull).trans hfound) hnull hdescribes

end Holding

/-- The live blocks of a machine are owned by the given holdings, each by one. -/
structure Accounts {σ : Type} (machine : Machine σ) (holdings : List Holding) : Prop where
  live : machine.heap.live.Perm (holdings.flatMap Holding.addresses)
  fits : ∀ holding ∈ holdings, holding.Fits machine.heap
  replays : machine.Replays

namespace Accounts

variable {σ : Type} {machine after : Machine σ} {holding : Holding} {holdings : List Holding}
  {address : Address} {block : Block}

/-- In a machine without any block nothing is owned. -/
theorem initial (host : σ) : Accounts (.start Heap.empty host) [] :=
  ⟨List.Perm.nil, fun _ hmem => absurd hmem List.not_mem_nil, rfl⟩

theorem perm {others : List Holding} (haccounts : Accounts machine holdings)
    (hperm : holdings.Perm others) : Accounts machine others where
  live := haccounts.live.trans (hperm.flatMap_right _)
  fits := fun holding hmem => haccounts.fits holding (hperm.mem_iff.mpr hmem)
  replays := haccounts.replays

/-- Accounts depend on the heap, and on the journal only as far as the heap goes. -/
theorem congr (haccounts : Accounts machine holdings) (hheap : after.heap = machine.heap)
    (hjournal : standing after.journal = standing machine.journal) : Accounts after holdings where
  live := hheap ▸ haccounts.live
  fits := hheap ▸ haccounts.fits
  replays := by
    unfold Machine.Replays
    rw [hjournal, hheap]
    exact haccounts.replays

theorem say (haccounts : Accounts machine holdings) (host : Host σ) (message : Bytes) :
    Accounts (machine.say host message) holdings :=
  haccounts.congr rfl rfl

theorem deny (haccounts : Accounts machine holdings) (capacity : Nat) :
    Accounts (machine.deny capacity) holdings :=
  haccounts.congr (Machine.heap_deny ..) (by rw [Machine.journal_deny])

/-- What stands at a place is not owned by it. -/
theorem setString (haccounts : Accounts machine holdings) (place : Place)
    (string : GuestString) : Accounts (machine.setString place string) holdings :=
  haccounts.congr rfl rfl

/-- No block is owned twice. -/
theorem nodup (haccounts : Accounts machine holdings) :
    (holdings.flatMap Holding.addresses).Nodup :=
  haccounts.live.nodup_iff.mp machine.heap.nodup

/-- The block of a holding belongs to no other holding. -/
theorem address_ne (haccounts : Accounts machine (holding :: holdings)) {other : Holding}
    (hother : other ∈ holdings) (hnull : other.address ≠ 0) :
    other.address ≠ holding.address := by
  intro hsame
  have hnodup := haccounts.nodup
  rw [List.flatMap_cons, List.nodup_append] at hnodup
  have hfirst : other.address ∈ holding.addresses := Holding.mem_addresses.mpr ⟨hnull, hsame.symm⟩
  have hsecond : other.address ∈ holdings.flatMap Holding.addresses :=
    List.mem_flatMap.mpr ⟨other, hother, Holding.mem_addresses.mpr ⟨hnull, rfl⟩⟩
  exact hnodup.2.2 _ hfirst _ hsecond rfl

/-! ## Holdings that own nothing -/

theorem dropNull (haccounts : Accounts machine (holding :: holdings))
    (hnull : holding.address = 0) : Accounts machine holdings where
  live := by
    have hlive := haccounts.live
    rw [List.flatMap_cons, Holding.addresses_of_eq hnull] at hlive
    exact hlive
  fits := fun other hmem => haccounts.fits other (List.mem_cons_of_mem _ hmem)
  replays := haccounts.replays

theorem addNull (haccounts : Accounts machine holdings) (length : Nat) :
    Accounts machine (.string ⟨0, length⟩ :: holdings) where
  live := by
    rw [List.flatMap_cons, Holding.addresses_of_eq rfl]
    exact haccounts.live
  fits := by
    intro other hmem
    rcases List.mem_cons.mp hmem with rfl | hmem
    · exact .null length
    · exact haccounts.fits other hmem
  replays := haccounts.replays

/-! ## One operation each -/

/-- A block that is granted is owned by a new holding. -/
theorem grant (haccounts : Accounts machine holdings) (holding : Holding) (block : Block)
    (hfresh : machine.heap.find? holding.address = none) (hnull : holding.address ≠ 0)
    (hdescribes : holding.Describes block) :
    Accounts (machine.grant holding.address block) (holding :: holdings) where
  live := by
    rw [Machine.live_grant hfresh, List.flatMap_cons, Holding.addresses_of_ne hnull]
    exact haccounts.live.cons _
  fits := by
    intro other hmem
    rcases List.mem_cons.mp hmem with rfl | hmem
    · exact .block block (Machine.find?_grant_self hfresh) hnull hdescribes
    · have hfits := haccounts.fits other hmem
      refine hfits.congr fun hother => ?_
      rw [Machine.find?_grant _ hfresh]
      refine if_neg fun hsame => ?_
      -- a holding at the new address would have a block there already
      cases hfits with
      | null length => exact absurd rfl hother
      | block block hfound _ _ => simp [hsame, hfresh] at hfound
  replays := haccounts.replays.grant hfresh

/-- A block that is released is owned by nobody. -/
theorem free (haccounts : Accounts machine (holding :: holdings))
    (hfound : machine.heap.find? holding.address = some block) (hnull : holding.address ≠ 0) :
    Accounts (machine.free holding.address block) holdings where
  live := by
    -- no other holding owns the block, so filtering takes out just the one address
    have hrest : holding.address ∉ holdings.flatMap Holding.addresses := by
      intro hmem
      obtain ⟨other, hother, hsame⟩ := List.mem_flatMap.mp hmem
      obtain ⟨hne, hsame⟩ := Holding.mem_addresses.mp hsame
      exact haccounts.address_ne hother (hsame ▸ hne) hsame
    have hlive := haccounts.live.filter (· != holding.address)
    rw [List.flatMap_cons, Holding.addresses_of_ne hnull, List.filter_append] at hlive
    rw [Machine.heap_free, Heap.live_erase]
    refine hlive.trans (List.Perm.of_eq ?_)
    rw [List.filter_cons_of_neg (by simp), List.filter_nil, List.nil_append,
      List.filter_eq_self]
    intro other hmem
    exact bne_iff_ne.mpr fun hsame => hrest (hsame ▸ hmem)
  fits := by
    intro other hmem
    have hfits := haccounts.fits other (List.mem_cons_of_mem _ hmem)
    refine hfits.congr fun hother => ?_
    rw [Machine.heap_free, Heap.find?_erase, if_neg (haccounts.address_ne hmem hother)]
  replays := haccounts.replays.free hfound

/-- Other bytes in a block are all right if its holding describes them. -/
theorem patch (haccounts : Accounts machine (holding :: holdings)) (patched : Block)
    (hfound : machine.heap.find? holding.address = some block)
    (hcapacity : patched.capacity = block.capacity) (hnull : holding.address ≠ 0)
    (hdescribes : holding.Describes patched) :
    Accounts (machine.patch holding.address patched) (holding :: holdings) where
  live := by
    rw [Machine.live_patch]
    exact haccounts.live
  fits := by
    intro other hmem
    rcases List.mem_cons.mp hmem with rfl | hmem
    · refine .block patched ?_ hnull hdescribes
      rw [Machine.find?_patch, if_pos rfl, hfound]
      rfl
    · refine (haccounts.fits other (List.mem_cons_of_mem _ hmem)).congr fun hother => ?_
      rw [Machine.find?_patch, if_neg (haccounts.address_ne hmem hother)]
  replays := haccounts.replays.patch hfound hcapacity

/-- A block may be held in another way, as long as that way describes it too. -/
theorem exchange (haccounts : Accounts machine (holding :: holdings)) (other : Holding)
    (hsame : other.address = holding.address) (hfits : other.Fits machine.heap) :
    Accounts machine (other :: holdings) where
  live := by
    have haddresses : other.addresses = holding.addresses := by
      simp only [Holding.addresses, hsame]
    rw [List.flatMap_cons, haddresses]
    exact haccounts.live
  fits := by
    intro entry hmem
    rcases List.mem_cons.mp hmem with rfl | hmem
    · exact hfits
    · exact haccounts.fits entry (List.mem_cons_of_mem _ hmem)
  replays := haccounts.replays

/-- Whatever a holding owned is owned by nobody when it has been released. -/
theorem drop (haccounts : Accounts machine (holding :: holdings)) :
    Accounts (machine.drop holding.address) holdings := by
  cases haccounts.fits holding List.mem_cons_self with
  | null length => exact haccounts.dropNull rfl
  | block block hfound hnull _ =>
      rw [Machine.drop_of_find? hfound hnull]
      exact haccounts.free hfound hnull

/-! ## What stands behind a holding -/

/-- Behind a holding that is not null there is a block. -/
theorem owned (haccounts : Accounts machine (holding :: holdings))
    (hkind : ∀ length, holding ≠ .string ⟨0, length⟩) :
    ∃ block, machine.heap.find? holding.address = some block ∧ holding.address ≠ 0 ∧
      holding.Describes block := by
  cases haccounts.fits holding List.mem_cons_self with
  | null length => exact absurd rfl (hkind length)
  | block block hfound hnull hdescribes => exact ⟨block, hfound, hnull, hdescribes⟩

theorem within {string : GuestString} (haccounts : Accounts machine (.string string :: holdings)) :
    string.Within machine.heap := by
  cases haccounts.fits _ List.mem_cons_self with
  | null length => exact .inl rfl
  | block block hfound hnull hdescribes => exact .inr ⟨block, hfound, hdescribes⟩

end Accounts

end GuestHost

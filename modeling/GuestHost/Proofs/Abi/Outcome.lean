import GuestHost.Proofs.Abi.Effects
import GuestHost.Session.Run

/-!
# The outcome of a call

An `Outcome` says of two machines everything that a call may have changed between them: the
block that it has released, the block that it has made, with its bytes, and the lines that it
has printed.  Every other block is the same, and the host has seen the lines and nothing else.

Like an `Effect`, an outcome follows a call through its machines by one rule for each
operation: `Outcome.refl` in the beginning, then `Outcome.say`, `Outcome.grant`,
`Outcome.free` and so on.  A block that was there is still found as it was, unless it has been
released (`Outcome.find?_of_find?`), which is what the next operation needs to know.
-/

namespace GuestHost

variable {σ : Type}

/-- Between two machines `released` has been released and `made` has been granted, and the
host has printed certain lines, the earliest first. -/
structure Outcome (host : Host σ) (before after : Machine σ) (released : Option Address)
    (made : Option (Address × Block)) (printed : List Bytes) : Prop where
  here : ∀ address block, made = some (address, block) → address ≠ 0 ∧
    before.heap.find? address = none ∧ after.heap.find? address = some block
  gone : ∀ address, released = some address → after.heap.find? address = none
  kept : ∀ address, released ≠ some address → made.map Prod.fst ≠ some address →
    after.heap.find? address = before.heap.find? address
  /-- What has happened meanwhile, the latest first. -/
  journal : ∃ happened, after.journal = happened ++ before.journal ∧
    TurnReport.printsOf happened.reverse = printed ∧
    ∀ address, releases address happened = if released = some address then 1 else 0
  told : after.host = printed.foldl (fun state line => (host.print line state).2) before.host

theorem printsOf_append (first second : List Event) :
    TurnReport.printsOf (first ++ second) =
      TurnReport.printsOf first ++ TurnReport.printsOf second :=
  List.filterMap_append

namespace Outcome

variable {host : Host σ} {before middle : Machine σ} {released : Option Address}
  {made : Option (Address × Block)} {printed : List Bytes} {address : Address} {block : Block}

theorem refl (host : Host σ) (machine : Machine σ) :
    Outcome host machine machine none none [] where
  here := nofun
  gone := nofun
  kept := fun _ _ _ => rfl
  journal := ⟨[], rfl, rfl, fun _ => rfl⟩
  told := rfl

/-- A block that was there is still there, unless it has been released: what is made stands
elsewhere. -/
theorem find?_of_find? (houtcome : Outcome host before middle released made printed)
    (hfound : before.heap.find? address = some block) (hreleased : released ≠ some address) :
    middle.heap.find? address = some block := by
  rw [houtcome.kept address hreleased, hfound]
  intro hmade
  obtain ⟨⟨other, granted⟩, hgranted, rfl⟩ := Option.map_eq_some_iff.mp hmade
  have hfresh := (houtcome.here other granted hgranted).2.1
  rw [hfresh] at hfound
  cases hfound

theorem say (houtcome : Outcome host before middle released made printed) (line : Bytes) :
    Outcome host before (middle.say host line) released made (printed ++ [line]) where
  here := houtcome.here
  gone := houtcome.gone
  kept := houtcome.kept
  journal := by
    obtain ⟨happened, hjournal, hprints, hreleases⟩ := houtcome.journal
    refine ⟨.printed line :: happened, congrArg _ hjournal, ?_, hreleases⟩
    rw [List.reverse_cons, printsOf_append, hprints]
    rfl
  told := by
    rw [List.foldl_append, ← houtcome.told]
    rfl

theorem deny (houtcome : Outcome host before middle released made printed) (capacity : Nat) :
    Outcome host before (middle.deny capacity) released made printed where
  here := by
    rw [Machine.heap_deny]
    exact houtcome.here
  gone := by
    rw [Machine.heap_deny]
    exact houtcome.gone
  kept := by
    rw [Machine.heap_deny]
    exact houtcome.kept
  journal := by
    rw [Machine.journal_deny]
    exact houtcome.journal
  told := by
    rw [Machine.host_deny]
    exact houtcome.told

theorem setString (houtcome : Outcome host before middle released made printed) (place : Place)
    (string : GuestString) :
    Outcome host before (middle.setString place string) released made printed where
  here := houtcome.here
  gone := houtcome.gone
  kept := houtcome.kept
  journal := houtcome.journal
  told := houtcome.told

/-- A block is granted before any other is released. -/
theorem grant (block : Block) (houtcome : Outcome host before middle none none printed)
    (hnull : address ≠ 0)
    (hfresh : before.heap.find? address = none) :
    Outcome host before (middle.grant address block) none (some (address, block)) printed where
  here := by
    rintro _ _ ⟨⟩
    have hmiddle := (houtcome.kept address nofun nofun).trans hfresh
    exact ⟨hnull, hfresh, Machine.find?_grant_self hmiddle⟩
  gone := nofun
  kept := by
    intro other hreleased hmade
    have hmiddle := (houtcome.kept address nofun nofun).trans hfresh
    have hother : other ≠ address := fun hsame => hmade (congrArg some hsame.symm)
    rw [Machine.find?_grant other hmiddle, if_neg hother]
    exact houtcome.kept other hreleased nofun
  journal := by
    obtain ⟨happened, hjournal, hprints, hreleases⟩ := houtcome.journal
    refine ⟨.allocated address block.footprint :: happened, congrArg _ hjournal, ?_, hreleases⟩
    rw [List.reverse_cons, printsOf_append, hprints]
    exact List.append_nil _
  told := houtcome.told

/-- A block is released that was there in the beginning. -/
theorem free (houtcome : Outcome host before middle none made printed)
    (hfound : before.heap.find? address = some block) :
    Outcome host before (middle.free address block) (some address) made printed where
  here := by
    intro other kept hmade
    -- the block that was made stands where none was, the released one where one was
    obtain ⟨hnull, hfresh, hkept⟩ := houtcome.here other kept hmade
    have hother : other ≠ address := by
      rintro rfl
      rw [hfresh] at hfound
      cases hfound
    rw [Machine.heap_free, Heap.find?_erase, if_neg hother]
    exact ⟨hnull, hfresh, hkept⟩
  gone := by
    rintro _ ⟨⟩
    rw [Machine.heap_free, Heap.find?_erase, if_pos rfl]
  kept := by
    intro other hreleased hmade
    have hother : other ≠ address := fun hsame => hreleased (congrArg some hsame.symm)
    rw [Machine.heap_free, Heap.find?_erase, if_neg hother]
    exact houtcome.kept other nofun hmade
  journal := by
    obtain ⟨happened, hjournal, hprints, hreleases⟩ := houtcome.journal
    refine ⟨.released address (block.capacity + blockHeaderSize) :: happened,
      congrArg _ hjournal, ?_, fun other => ?_⟩
    · rw [List.reverse_cons, printsOf_append, hprints]
      exact List.append_nil _
    · rw [releases_released, hreleases other]
      simp
  told := houtcome.told

/-- Whatever string's block is released, if the string has one. -/
theorem drop (houtcome : Outcome host before middle none made printed) {pointer : Address}
    (hlive : pointer = 0 ∨ ∃ block, before.heap.find? pointer = some block) :
    Outcome host before (middle.drop pointer) (if pointer = 0 then none else some pointer) made
      printed := by
  by_cases hnull : pointer = 0
  · subst hnull
    exact houtcome
  · obtain ⟨block, hfound⟩ := hlive.resolve_left hnull
    rw [if_neg hnull, Machine.drop_of_find? (houtcome.find?_of_find? hfound nofun) hnull]
    exact houtcome.free hfound

end Outcome

end GuestHost

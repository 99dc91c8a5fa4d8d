import GuestHost.Proofs.Lookup
import GuestHost.Session.Caller

/-!
# What is held in slots

A caller's slots are a list of names and holdings, no name twice.  Some of them may
be *open*: what they held is on the table, and what stands in them does not count
until it is replaced.  `Slots.held` lists what the other slots hold.  Opening a slot
takes its holding out of that list (`Slots.held_open`), and putting something into it,
whether it was open, empty or not there, adds to it (`Slots.held_put`).
-/

namespace GuestHost.Slots

/-- What the slots hold, apart from those that are open. -/
def held (slots : Slots) (opened : List (Option String)) : List Holding :=
  (slots.filter fun slot => decide (some slot.1 ∉ opened)).map Prod.snd

/-- No name twice. -/
def Distinct (slots : Slots) : Prop :=
  (slots.map Prod.fst).Nodup

variable {slots : Slots} {opened : List (Option String)} {name : String}
  {holding : Holding}

@[simp] theorem held_nil : slots.held [] = slots.map Prod.snd := by
  have hall :
      slots.filter (fun slot => decide (some slot.1 ∉ ([] : List (Option String)))) = slots :=
    List.filter_eq_self.mpr fun _ _ => by simp
  rw [held, hall]

/-! ## Emptying a slot -/

theorem notMem_without : name ∉ (slots.without name).map Prod.fst := by
  intro hmem
  obtain ⟨slot, hslot, hname⟩ := List.mem_map.mp hmem
  have hother := (List.mem_filter.mp hslot).2
  rw [hname] at hother
  simp at hother

theorem lookup_without_self : (slots.without name).lookup name = none :=
  lookup_eq_none_iff_notMem.mpr notMem_without

theorem Distinct.without (hdistinct : slots.Distinct) : (slots.without name).Distinct :=
  hdistinct.sublist (List.Sublist.map _ List.filter_sublist)

/-- A slot that is opened or emptied does not count. -/
theorem held_without : (slots.without name).held opened = slots.held (some name :: opened) := by
  simp only [held, Slots.without, List.filter_filter]
  congr 2
  funext slot
  by_cases hname : slot.1 = name <;> simp [hname]

theorem held_without_of_mem (hopened : some name ∈ opened) :
    (slots.without name).held opened = slots.held opened := by
  rw [held_without]
  simp only [held]
  congr 2
  funext slot
  by_cases hname : slot.1 = name <;> simp [hname, hopened]

/-- Opening a slot lays what it holds on the table. -/
theorem held_open (hdistinct : slots.Distinct) (hfound : slots.lookup name = some holding)
    (hclosed : some name ∉ opened) :
    (slots.held opened).Perm (holding :: slots.held (some name :: opened)) := by
  unfold Distinct at hdistinct
  induction slots with
  | nil => simp at hfound
  | cons slot rest ih =>
      obtain ⟨key, kept⟩ := slot
      rw [List.map_cons, List.nodup_cons] at hdistinct
      by_cases hkey : name = key
      · subst hkey
        have hkept : kept = holding := by simpa using hfound
        subst hkept
        -- no other slot has the name, so opening it makes no difference to the rest
        have hrest : Slots.held rest opened = Slots.held rest (some name :: opened) := by
          simp only [held]
          congr 1
          refine List.filter_congr fun slot hslot => ?_
          have hname : slot.1 ≠ name := fun hsame =>
            hdistinct.1 (List.mem_map.mpr ⟨slot, hslot, hsame⟩)
          simp [hname]
        simp only [held] at hrest ⊢
        rw [List.filter_cons_of_pos (by simpa using hclosed), List.filter_cons_of_neg (by simp),
          List.map_cons, hrest]
      · have hfound : rest.lookup name = some holding := by
          simpa [List.lookup_cons, beq_eq_false_iff_ne.mpr hkey] using hfound
        have hperm := ih hdistinct.2 hfound
        simp only [held] at hperm ⊢
        by_cases hopened : some key ∈ opened
        · rw [List.filter_cons_of_neg (by simpa using hopened),
            List.filter_cons_of_neg (by simp [hopened])]
          exact hperm
        · rw [List.filter_cons_of_pos (by simpa using hopened),
            List.filter_cons_of_pos (by simpa [hopened] using Ne.symm hkey)]
          exact (hperm.cons kept).trans (List.Perm.swap ..)

/-! ## Filling a slot -/

theorem Distinct.put (hdistinct : slots.Distinct) : (slots.put name holding).Distinct :=
  List.nodup_cons.mpr ⟨notMem_without, hdistinct.without⟩

@[simp] theorem lookup_put_self : (slots.put name holding).lookup name = some holding := by
  simp [Slots.put]

/-- What is put into an open slot counts again. -/
theorem held_put (hclosed : some name ∉ opened) :
    (slots.put name holding).held opened = holding :: slots.held (some name :: opened) := by
  rw [← held_without]
  simp only [held, Slots.put]
  rw [List.filter_cons_of_pos (by simpa using hclosed), List.map_cons]

/-- What is put into a slot that stays open does not count. -/
theorem held_put_of_mem (hopened : some name ∈ opened) :
    (slots.put name holding).held opened = slots.held opened := by
  have hwithout : (slots.without name).held opened = slots.held opened :=
    held_without_of_mem hopened
  rw [← hwithout]
  simp only [held, Slots.put]
  rw [List.filter_cons_of_neg (by simpa using hopened)]

end GuestHost.Slots

/-!
# Looking up by name

Exports, blocks and slots are kept as lists of pairs with no first part twice.  In such a
list a look-up finds a pair exactly if the pair is there (`lookup_eq_some_iff_mem`), and
nothing exactly if the name is not among the first parts (`lookup_eq_none_iff_notMem`).
-/

namespace GuestHost

variable {α β : Type} [BEq α] [LawfulBEq α] {entries : List (α × β)} {key : α} {value : β}

theorem lookup_eq_none_iff_notMem :
    entries.lookup key = none ↔ key ∉ entries.map Prod.fst := by
  induction entries with
  | nil => simp
  | cons entry rest ih =>
      obtain ⟨name, kept⟩ := entry
      by_cases hname : key = name
      · simp [hname]
      · simp [List.lookup_cons, beq_eq_false_iff_ne.mpr hname, hname, ih]

theorem lookup_eq_some_iff_mem (hnodup : (entries.map Prod.fst).Nodup) :
    entries.lookup key = some value ↔ (key, value) ∈ entries := by
  induction entries with
  | nil => simp
  | cons entry rest ih =>
      obtain ⟨name, kept⟩ := entry
      rw [List.map_cons, List.nodup_cons] at hnodup
      by_cases hname : key = name
      · subst hname
        have habsent : (key, value) ∉ rest := fun hmem =>
          hnodup.1 (List.mem_map.mpr ⟨_, hmem, rfl⟩)
        simp [habsent, eq_comm]
      · simp [List.lookup_cons, beq_eq_false_iff_ne.mpr hname, hname, ih hnodup.2]

end GuestHost

import GuestHost.Proofs.Host.Print
import GuestHost.Proofs.Text.Pieces

/-!
# What a cap leaves of a text

The host cuts a printed string at a cap, which is a number of bytes, and reads what is left
as text.  Where the cap falls between two characters, what is recorded is the beginning of
the text and no longer than the cap.  Where it falls inside of a character, U+FFFD stands in
the record for what is left of that character, and takes three bytes of its own: such a
record is not the beginning of the text, or else it is longer than the cap, and it can be
longer by two bytes.

So the record keeps to the cap exactly if the cap leaves a text (`Utf8.CutAt.keeps_iff`), and
`front` is in any case what the cap leaves of the text in whole characters.
`record_of_a_cut_character` is a text for which it does not.
-/

namespace GuestHost

namespace Utf8

variable {text front : String} {cap count : Nat} {next : Char}

theorem length_encode_replacement (front : String) :
    (encode (front ++ "\uFFFD")).length = (encode front).length + 3 := by
  have hthree : (encode "\uFFFD").length = 3 := by decide
  rw [encode_append, List.length_append, hthree]

/-- A text that goes on with U+FFFD where a cap goes through a character has lost nothing but
bytes of a U+FFFD of its own, and these are fewer than three. -/
theorem CutAt.replacement_exceeds (hcut : CutAt text cap front next count)
    (hrecord : ∃ rest, text = front ++ "\uFFFD" ++ rest) :
    cap < (encode (front ++ "\uFFFD")).length := by
  obtain ⟨rest, hrest⟩ := hrecord
  obtain ⟨⟨behind, rfl⟩, hcount, rfl⟩ := hcut
  -- the character that the cap goes through is itself a U+FFFD
  have hchars := congrArg String.toList hrest
  simp only [String.toList_append, List.append_assoc, List.append_cancel_left_eq,
    String.toList_singleton, List.singleton_append] at hchars
  obtain rfl : next = '\uFFFD' := (List.cons.inj hchars).1
  have hthree : (String.utf8EncodeChar '\uFFFD').length = 3 := by decide
  rw [length_encode_replacement]
  omega

/-- What is read in the end is longer than the cap by two bytes at most. -/
theorem CutAt.length_decodeLossy_take_le (hcut : CutAt text cap front next count) :
    (encode (decodeLossy ((encode text).take cap))).length ≤ cap + 2 := by
  have hsum := hcut.cap
  rw [hcut.decodeLossy_take]
  split
  · omega
  · next hpos =>
      rw [length_encode_replacement]
      omega

/-- What is read is how the text begins, and keeps to the cap, exactly if the cap does not go
through a character. -/
theorem CutAt.keeps_iff (hcut : CutAt text cap front next count) :
    ((encode (decodeLossy ((encode text).take cap))).length ≤ cap ∧
      ∃ rest, text = decodeLossy ((encode text).take cap) ++ rest) ↔ count = 0 := by
  rw [hcut.decodeLossy_take]
  constructor
  · rintro ⟨hwithin, hpart⟩
    refine Decidable.byContradiction fun hinside => ?_
    rw [if_neg hinside] at hwithin hpart
    exact absurd hwithin (Nat.not_le_of_lt (hcut.replacement_exceeds hpart))
  · intro hzero
    obtain ⟨rest, hrest⟩ := hcut.text
    have hsum := hcut.cap
    rw [if_pos hzero]
    exact ⟨by omega, _, hrest⟩

end Utf8

/-- A text is printed: what is recorded are the characters that the cap leaves whole, and at
most one U+FFFD.  The record is a part of the text within the cap exactly if the cap leaves
nothing but whole characters, and it is never longer than two bytes beyond the cap. -/
theorem record_of_text {memory : LinearMemory} {pointer : Int32} {start : Nat} {text : String}
    (state : HostState) (hpointer : Word.toCount? pointer = some start)
    (hnul : '\x00' ∉ text.toList) (hholds : memory.Holds start (Utf8.encode text ++ [0])) :
    ∃ front recorded,
      (state.print (some memory) pointer).2.output = state.output ++ [recorded] ∧
      (∃ rest, text = front ++ rest) ∧ (Utf8.encode front).length ≤ state.maxLogLength ∧
      (recorded = front ∨ recorded = front ++ "\uFFFD") ∧
      (Utf8.encode recorded).length ≤ state.maxLogLength + 2 ∧
      (((Utf8.encode recorded).length ≤ state.maxLogLength ∧ ∃ rest, text = recorded ++ rest) ↔
        ∃ whole, Utf8.encode whole = (Utf8.encode text).take state.maxLogLength) := by
  obtain ⟨events, hprint⟩ :=
    state.print_records hpointer (Utf8.firstNul?_encode hnul) hholds
  rw [hprint]
  by_cases hcap : state.maxLogLength < (Utf8.encode text).length
  · obtain ⟨front, next, count, hcut⟩ := Utf8.exists_cutAt hcap
    obtain ⟨rest, hrest⟩ := hcut.text
    have hsum := hcut.cap
    -- `front` ends where the last whole character does
    refine ⟨front, _, rfl, ⟨_, hrest⟩, by omega, ?_, hcut.length_decodeLossy_take_le, ?_⟩
    · rw [hcut.decodeLossy_take]
      split
      · exact .inl rfl
      · exact .inr rfl
    · rw [hcut.keeps_iff, hcut.count_eq_zero_iff]
  · have hwithin : (Utf8.encode text).length ≤ state.maxLogLength := Nat.le_of_not_lt hcap
    rw [List.take_of_length_le hwithin, Utf8.decodeLossy_encode]
    have hwhole : ∃ rest, text = text ++ rest := ⟨"", String.append_empty.symm⟩
    refine ⟨text, text, rfl, hwhole, hwithin, .inl rfl, by omega, ?_⟩
    exact ⟨fun _ => ⟨text, rfl⟩, fun _ => ⟨hwithin, hwhole⟩⟩

/-- A cap between two characters. -/
theorem record_of_three_letters :
    let memory := (LinearMemory.zeros 1).overwrite 16 (Utf8.encode "abcé" ++ [0])
    let state : HostState := { maxLogLength := 3, bufferStatus := 0 }
    ∃ recorded, (state.print (some memory) 16).2.output = [recorded] ∧
      (Utf8.encode recorded).length ≤ 3 ∧ ∃ rest, "abcé" = recorded ++ rest := by
  intro memory state
  have hholds : memory.Holds 16 (Utf8.encode "abcé" ++ [0]) := by decide +kernel
  have hpointer : Word.toCount? 16 = some 16 := by decide
  obtain ⟨front, recorded, houtput, -, -, -, -, hkeeps⟩ :=
    record_of_text state hpointer (by decide) hholds
  have hwhole : ∃ whole, Utf8.encode whole = (Utf8.encode "abcé").take 3 :=
    ⟨"abc", by decide +kernel⟩
  exact ⟨recorded, houtput, hkeeps.mpr hwhole⟩

/-- A cap inside of a character.  The record is six bytes long where four are allowed, and it
is not how the text begins. -/
theorem record_of_a_cut_character :
    let memory := (LinearMemory.zeros 1).overwrite 16 (Utf8.encode "abcé" ++ [0])
    let state : HostState := { maxLogLength := 4, bufferStatus := 0 }
    memory.Holds 16 (Utf8.encode "abcé" ++ [0]) ∧
      (state.print (some memory) 16).2.output = ["abc\uFFFD"] ∧
      4 < (Utf8.encode "abc\uFFFD").length ∧ ¬ ∃ rest, "abcé" = "abc\uFFFD" ++ rest := by
  intro memory state
  refine ⟨by decide +kernel, by decide +kernel, by decide +kernel, ?_⟩
  rintro ⟨rest, hrest⟩
  have hchars := congrArg String.toList hrest
  rw [String.toList_append] at hchars
  have hfour : 'é' = '\uFFFD' := congrArg (fun chars : List Char => chars.getD 3 'é') hchars
  exact absurd hfour (by decide)

end GuestHost

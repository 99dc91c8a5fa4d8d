import GuestHost.Proofs.Abi.Outcome
import GuestHost.Proofs.Abi.Ownership

/-!
# A string that is copied and given away

An echo gets the place of a string and a place for the copy: none, another one, or the place of
the string itself.  It copies first and releases then, so the copy never stands where the string
stood; and the place of the string is emptied before the copy is written, so a copy that goes to
the same place stays there.

* `errorLine_guestEcho`: what is reported when there is no room for a copy.
* `guestEcho_copied`: what has become of the blocks before the copy is given away.
* `guestEcho_outcome_granted`, `guestEcho_outcome_refused`: the whole call, by the answer of the
  system.
* `string_is_copied_and_given_away`: the places and the blocks after any call.
-/

namespace GuestHost.Entry

variable {σ : Type} {world : World σ} {machine : Machine σ} {place : Place} {out : Address}

/-- The line that reports that there is no room for a copy. -/
def copyRefusedLine (count : Nat) : Bytes :=
  Utf8.encode s!"[ERROR] guest_echo: Allocation of {count} bytes failed\n"

theorem errorLine_guestEcho (count : Nat) :
    Sample.errorLine Export.guestEcho (.allocationFailed count) = copyRefusedLine count := by
  have hhead : "[ERROR] guest_echo: Allocation of " =
      "[ERROR] " ++ (Export.guestEcho ++ (": " ++ "Allocation of ")) := by decide
  have hend : " bytes failed\n" = " bytes failed" ++ "\n" := by decide
  have hname : '\x00' ∉ Export.guestEcho.toList := by decide
  have hmessage : (GuestError.allocationFailed count).message =
      "Allocation of " ++ toString count ++ " bytes failed" := rfl
  have hline : s!"[ERROR] guest_echo: Allocation of {count} bytes failed\n" =
      "[ERROR] guest_echo: Allocation of " ++ toString count ++ " bytes failed\n" := rfl
  rw [Sample.errorLine_eq hname, copyRefusedLine, hmessage, hline, hhead, hend]
  simp only [String.append_assoc]

/-- The copy has been made, the block of the string released and its place emptied. -/
theorem guestEcho_copied (place : Place) {string : GuestString}
    (hwithin : string.Within machine.heap)
    (hanswer : world.answer machine (string.contents machine.heap).length = some out)
    (copy : Block) :
    Outcome world.host machine
      (((machine.grant out copy).drop string.pointer).setString place .empty)
      (nonNull string.pointer) (some (out, copy)) [] := by
  have hfresh := World.fresh_of_answer hanswer
  have hnull := World.answer_ne_zero hanswer
  have hgranted := (Outcome.refl world.host machine).grant copy hnull hfresh
  exact (hgranted.drop hwithin.live).setString place .empty

/-- The copy is written to the place of the result, or released if there is none. -/
theorem guestEcho_outcome_granted (result : Option Place)
    (hwithin : (machine.strings place).Within machine.heap)
    (hanswer : world.answer machine
      ((machine.strings place).contents machine.heap).length = some out) :
    ∃ copy after,
      guestEcho (some place) result world machine = (.ok (), after) ∧
      copy.contents = (machine.strings place).contents machine.heap ∧
      Delivers machine after (some place) result
        ⟨out, ((machine.strings place).contents machine.heap).length⟩ ∧
      (result ≠ none → Outcome world.host machine after
        (nonNull (machine.strings place).pointer) (some (out, copy)) []) ∧
      (result = none → ∃ middle, Outcome world.host machine middle
          (nonNull (machine.strings place).pointer) (some (out, copy)) [] ∧
        Outcome world.host middle after (some out) none []) := by
  obtain ⟨copy, hcontents, hrun⟩ := guestEcho_run_granted result rfl hwithin hanswer
  have hcopied := guestEcho_copied place hwithin hanswer copy
  have hstrings : ((machine.grant out copy).drop (machine.strings place).pointer).strings =
      machine.strings := Machine.strings_drop ..
  refine ⟨copy, _, hrun, hcontents, delivers_give hstrings, ?_, ?_⟩
  · intro hresult
    obtain ⟨target, rfl⟩ := Option.ne_none_iff_exists'.mp hresult
    exact hcopied.setString target _
  · rintro rfl
    -- the copy is the only block that could be released now, and it is there
    obtain ⟨hnull, -, hfound⟩ := hcopied.here out copy rfl
    refine ⟨_, hcopied, ?_⟩
    rw [give, Machine.drop_of_find? hfound hnull]
    exact (Outcome.refl world.host _).free hfound

/-- If there is no room for a copy, that is reported, and the string is released all the
same. -/
theorem guestEcho_outcome_refused (result : Option Place)
    (hwithin : (machine.strings place).Within machine.heap)
    (hanswer : world.answer machine
      ((machine.strings place).contents machine.heap).length = none) :
    ∃ after, guestEcho (some place) result world machine = (.ok (), after) ∧
      Delivers machine after (some place) result .empty ∧
      Outcome world.host machine after (nonNull (machine.strings place).pointer) none
        [copyRefusedLine ((machine.strings place).contents machine.heap).length] := by
  have hreported := ((Outcome.refl world.host machine).deny
    ((machine.strings place).contents machine.heap).length).say
      (copyRefusedLine ((machine.strings place).contents machine.heap).length)
  rw [← errorLine_guestEcho] at hreported ⊢
  have hrun : guestEcho (some place) result world machine = _ :=
    guestEcho_run_denied rfl hwithin hanswer
  have hdropped := (hreported.drop hwithin.live).setString place .empty
  refine ⟨_, hrun, delivers_give ?_, ?_⟩
  · rw [Machine.strings_drop]
    exact Machine.strings_deny ..
  · cases result with
    | none => exact hdropped
    | some target => exact hdropped.setString target .empty

/-- Without a string nothing happens but that the place of the result, if there is one, is given
the empty string.  Otherwise let the bytes be those of the string at the place of the message.
If the system grants a block for them, they are copied into a new one, the string's own block is
released, and the copy is written to the place of the result; without such a place it is released
again.  If the system does not, one line reports that, the place of the result is given the empty
string, and the string's block is released too.  At the place of the message the empty string is
left, unless the result goes there.  No other block and no other place is touched. -/
theorem string_is_copied_and_given_away (world : World σ) (machine : Machine σ)
    (result : Option Place) :
    (∃ after, guestEcho none result world machine = (.ok (), after) ∧
      Delivers machine after none result .empty ∧
      after = { machine with strings := after.strings }) ∧
    ∀ place : Place,
      let string := machine.strings place
      let bytes := string.contents machine.heap
      string.Within machine.heap →
      string.bytes world machine = (.ok bytes, machine) ∧
      (∀ out, world.answer machine bytes.length = some out →
        ∃ copy after,
          guestEcho (some place) result world machine = (.ok (), after) ∧
          copy.capacity = bytes.length ∧ copy.contents = bytes ∧ out ≠ string.pointer ∧
          Delivers machine after (some place) result ⟨out, bytes.length⟩ ∧
          (result ≠ none →
            Outcome world.host machine after (nonNull string.pointer) (some (out, copy)) []) ∧
          (result = none → ∃ middle,
            Outcome world.host machine middle (nonNull string.pointer) (some (out, copy)) [] ∧
            Outcome world.host middle after (some out) none [])) ∧
      (world.answer machine bytes.length = none →
        ∃ after, guestEcho (some place) result world machine = (.ok (), after) ∧
          Delivers machine after (some place) result .empty ∧
          Outcome world.host machine after (nonNull string.pointer) none
            [copyRefusedLine bytes.length]) := by
  refine ⟨⟨_, guestEcho_run_none, delivers_give_none, ?_⟩, ?_⟩
  · cases result <;> rfl
  · intro place string bytes hwithin
    refine ⟨GuestString.bytes_run hwithin, ?_, guestEcho_outcome_refused result hwithin⟩
    intro out hanswer
    obtain ⟨copy, after, hrun, hcontents, hrest⟩ :=
      guestEcho_outcome_granted result hwithin hanswer
    have hcapacity : copy.capacity = bytes.length := by
      rw [← copy.length_contents, hcontents]
    have hapart : out ≠ string.pointer :=
      hwithin.ne_of_fresh (World.answer_ne_zero hanswer) (World.fresh_of_answer hanswer)
    exact ⟨copy, after, hrun, hcapacity, hcontents, hapart, hrest⟩

/-- Two letters are replaced by their copy where they stand, or their copy goes nowhere and leaves
nothing behind; and if the system refuses its first request, the string that stands at the place
of the result is replaced by the empty one.  Each time their block is released, and the one beside
it stays. -/
theorem two_letters_are_copied_and_given_away :
    let letters : Block := ⟨2, [0x61, 0x62], 10, rfl, rfl⟩
    let other : Block := ⟨1, [7], 9, rfl, rfl⟩
    let heap := (Heap.empty.insert 8 letters rfl).insert 16 other rfl
    let machine : Machine Recording :=
      ((Machine.start heap {}).setString "letters" ⟨8, 2⟩).setString "other" ⟨16, 1⟩
    let granting : World Recording :=
      ⟨SystemAllocator.refusing none, Recording.host 1 0, Recording.rounds 1⟩
    let refusing : World Recording :=
      ⟨SystemAllocator.refusing (some 1), Recording.host 1 0, Recording.rounds 1⟩
    (machine.strings "letters").Within machine.heap ∧
    (∃ copy after, guestEcho (some "letters") (some "letters") granting machine =
        (.ok (), after) ∧ copy.contents = [0x61, 0x62] ∧
      after.strings "letters" = ⟨17, 2⟩ ∧ after.strings "other" = ⟨16, 1⟩ ∧
      after.heap.find? 17 = some copy ∧ after.heap.find? 8 = none ∧
      after.heap.find? 16 = some other) ∧
    (∃ after, guestEcho (some "letters") none granting machine = (.ok (), after) ∧
      after.strings "letters" = .empty ∧
      after.heap.find? 17 = none ∧ after.heap.find? 8 = none ∧
      after.heap.find? 16 = some other) ∧
    ∃ after, guestEcho (some "letters") (some "other") refusing machine = (.ok (), after) ∧
      after.strings "letters" = .empty ∧ after.strings "other" = .empty ∧
      after.heap.find? 8 = none ∧ after.heap.find? 16 = some other ∧
      Outcome refusing.host machine after (some 8) none [copyRefusedLine 2] := by
  intro letters other heap machine granting refusing
  have hwithin : (machine.strings "letters").Within machine.heap :=
    .inr ⟨letters, rfl, by decide⟩
  have hother : machine.heap.find? 16 = some other := rfl
  obtain ⟨-, halias⟩ := string_is_copied_and_given_away granting machine (some "letters")
  obtain ⟨-, hnowhere⟩ := string_is_copied_and_given_away granting machine none
  obtain ⟨-, hover⟩ := string_is_copied_and_given_away refusing machine (some "other")
  obtain ⟨-, hcopies, -⟩ := halias "letters" hwithin
  obtain ⟨-, hreleases, -⟩ := hnowhere "letters" hwithin
  obtain ⟨-, -, hrefuses⟩ := hover "letters" hwithin
  obtain ⟨copy, placed, hplaced, -, hcontents, -, hthere, hcopied, -⟩ :=
    hcopies 17 (by decide +kernel)
  obtain ⟨_, left, hleft, -, -, -, hemptied, -, hmade⟩ := hreleases 17 (by decide +kernel)
  obtain ⟨refused, hrefused, hempty, htold⟩ := hrefuses (by decide +kernel)
  have hmoved := hcopied nofun
  obtain ⟨middle, hmiddle, hgone⟩ := hmade rfl
  refine ⟨hwithin,
    ⟨copy, placed, hplaced, hcontents, hthere.given "letters" rfl,
      hthere.kept "other" (by decide) (by decide), (hmoved.here 17 copy rfl).2.2,
      hmoved.gone 8 rfl, hmoved.find?_of_find? hother (by decide)⟩,
    ⟨left, hleft, hemptied.emptied "letters" rfl nofun, hgone.gone 17 rfl, ?_, ?_⟩,
    refused, hrefused, hempty.emptied "letters" rfl (by decide), hempty.given "other" rfl,
    htold.gone 8 rfl, htold.find?_of_find? hother (by decide), htold⟩
  · rw [hgone.kept 8 (by decide) nofun, hmiddle.gone 8 rfl]
  · exact hgone.find?_of_find? (hmiddle.find?_of_find? hother (by decide)) (by decide)

end GuestHost.Entry

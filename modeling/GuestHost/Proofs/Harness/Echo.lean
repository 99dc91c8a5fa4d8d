import GuestHost.Proofs.Harness.Exports
import GuestHost.Proofs.Harness.Runs
import GuestHost.Proofs.Text.Pieces

/-!
# What comes back from an echo

A guest whose `Echo` answers its argument (`Echoes`) gives back the very string that it was
given: the bytes have not moved, and nobody has written to them.  What the harness makes of
them is another matter, since it reads a string of a guest up to a limit only.

* `echo_run_whole`: a text that is no longer than the limit comes back as it was.
* `echo_run_ne`: a longer text never does.
* `echo_run_cut`: if the limit falls between two characters a longer text comes back
  shortened, and nothing tells it from a string that is complete; if the limit goes through
  a character, the harness reports that what it was given is no text.

The limit is at least that of `Instance.stringLengthFloor`, and `maxLogLength` where that is
more.
-/

namespace GuestHost.Harness

variable {γ : Type} {program : GuestProgram γ} {inst : Instance γ}
  {text : String} {pointer : Int32} {allocated echoed freed : GuestState γ}

/-- A guest echoes: it has memory for the bytes, answers `Echo` with its argument and leaves
memory as it is, and takes the buffer back in the end. -/
structure Echoes (program : GuestProgram γ) (state : GuestState γ) (bytes : Bytes)
    (pointer : Int32) (allocated echoed freed : GuestState γ) : Prop where
  allocates : Allocates program state bytes.length pointer allocated
  answers : program.invoke Export.echo [pointer]
    (allocated.put pointer.toInt.toNat bytes) = (.ok pointer, echoed)
  unchanged : echoed.memory = (allocated.put pointer.toInt.toNat bytes).memory
  releases : Returns program Export.free [pointer] echoed freed

/-- What the harness makes of the bytes that it has read. -/
def echoedAnswer (bytes : Bytes) : Except (Failure HarnessError) (String × Bool) :=
  match Utf8.decode? bytes with
  | some front => .ok (front, true)
  | none => .error (.error (.notText "Guest"))

theorem Echoes.readCString {bytes : Bytes} {state : GuestState γ}
    (hechoes : Echoes program state (bytes ++ [0]) pointer allocated echoed freed)
    (hzero : bytes.firstNul? = none) (limit : Nat) :
    echoed.memory.readCString pointer limit = .ok (bytes.take limit) := by
  have hholds : echoed.memory.Holds pointer.toInt.toNat (bytes ++ [0]) := by
    rw [hechoes.unchanged]
    exact LinearMemory.holds_overwrite hechoes.allocates.fits
  exact LinearMemory.readCString_eq_ok_iff.mpr
    ⟨_, bytes, hechoes.allocates.toCount?, hzero, hholds, rfl⟩

/-- An echo that succeeds on the guest's side is decided by the bytes that are read. -/
theorem echo_run (hexports : exportsFunction program Export.echo .unary = true)
    (hnul : '\x00' ∉ text.toList) (hsize : (Utf8.encode text).length + 1 < 2 ^ 31)
    (hechoes : Echoes program inst.state (Utf8.encode text ++ [0]) pointer allocated echoed
      freed) :
    (echo text program inst).1 =
      echoedAnswer ((Utf8.encode text).take inst.maxStringLength) := by
  -- the instance when the guest has answered, and what the harness finds in its memory
  let answered := ((inst.called Export.malloc
    [Int32.ofNat (Utf8.encode text ++ [0]).length] allocated).put pointer.toInt.toNat
      (Utf8.encode text ++ [0])).called Export.echo [pointer] echoed
  have hread : answered.state.memory.readCString pointer answered.maxStringLength =
      .ok ((Utf8.encode text).take inst.maxStringLength) :=
    hechoes.readCString (Utf8.firstNul?_encode hnul) _
  have hfree : free pointer program answered = _ := free_run hechoes.releases
  rw [echo, Attempt.bind_of_ok (writeCString_run hnul (by simpa using hsize) hechoes.allocates),
    Attempt.bind_of_ok (call_run hexports hechoes.answers), if_neg hechoes.allocates.ne_zero,
    Attempt.bind_apply, readText_run hread, echoedAnswer]
  cases Utf8.decode? ((Utf8.encode text).take inst.maxStringLength) with
  | some front =>
      simp only
      rw [Attempt.bind_of_ok hfree, beq_self_eq_true]
      rfl
  | none => rfl

/-! ## Within the limit and beyond it -/

theorem echo_run_whole (hexports : exportsFunction program Export.echo .unary = true)
    (hnul : '\x00' ∉ text.toList) (hsize : (Utf8.encode text).length + 1 < 2 ^ 31)
    (hechoes : Echoes program inst.state (Utf8.encode text ++ [0]) pointer allocated echoed
      freed)
    (hwhole : (Utf8.encode text).length ≤ inst.maxStringLength) :
    (echo text program inst).1 = .ok (text, true) := by
  rw [echo_run hexports hnul hsize hechoes, List.take_of_length_le hwhole, echoedAnswer,
    Utf8.decode?_encode]

theorem echo_run_cut {front : String} {next : Char} {count : Nat}
    (hexports : exportsFunction program Export.echo .unary = true)
    (hnul : '\x00' ∉ text.toList) (hsize : (Utf8.encode text).length + 1 < 2 ^ 31)
    (hechoes : Echoes program inst.state (Utf8.encode text ++ [0]) pointer allocated echoed
      freed)
    (hcut : Utf8.CutAt text inst.maxStringLength front next count) :
    (echo text program inst).1 =
      if count = 0 then .ok (front, true) else .error (.error (.notText "Guest")) := by
  rw [echo_run hexports hnul hsize hechoes, echoedAnswer, hcut.decode?_take]
  by_cases hzero : count = 0
  · rw [if_pos hzero, if_pos hzero]
  · rw [if_neg hzero, if_neg hzero]

/-- Of a text that is too long only a part comes back, if anything does. -/
theorem echo_run_ne (hexports : exportsFunction program Export.echo .unary = true)
    (hnul : '\x00' ∉ text.toList) (hsize : (Utf8.encode text).length + 1 < 2 ^ 31)
    (hechoes : Echoes program inst.state (Utf8.encode text ++ [0]) pointer allocated echoed
      freed)
    (hlong : inst.maxStringLength < (Utf8.encode text).length) :
    (echo text program inst).1 ≠ .ok (text, true) := by
  obtain ⟨front, next, count, hcut⟩ := Utf8.exists_cutAt hlong
  rw [echo_run_cut hexports hnul hsize hechoes hcut]
  split
  · next hzero =>
      intro hfront
      obtain rfl : front = text := congrArg Prod.fst (Except.ok.inj hfront)
      have hcap := hcut.cap
      omega
  · nofun

/-- Whatever a text is and wherever its characters lie, an echoing guest's answer is read as
the same text exactly if the text is within the limit.  Beyond the limit the harness answers
the part that it has read, or that it has read no text. -/
theorem echo_up_to_the_limit
    (hchecked : checkModule program.exports program.imports = .ok ()) (settings : Settings)
    (hlimit : inst.maxStringLength = max settings.maxLogLength Instance.stringLengthFloor)
    (hnul : '\x00' ∉ text.toList) (hsize : (Utf8.encode text).length + 1 < 2 ^ 31)
    (hechoes : Echoes program inst.state (Utf8.encode text ++ [0]) pointer allocated echoed
      freed) :
    ((echo text program inst).1 = .ok (text, true) ↔
      (Utf8.encode text).length ≤ max settings.maxLogLength Instance.stringLengthFloor) ∧
    (max settings.maxLogLength Instance.stringLengthFloor < (Utf8.encode text).length →
      ∃ front next count,
        Utf8.CutAt text (max settings.maxLogLength Instance.stringLengthFloor) front next count ∧
        (echo text program inst).1 =
          if count = 0 then .ok (front, true) else .error (.error (.notText "Guest"))) := by
  have hexports : exportsFunction program Export.echo .unary = true :=
    exportsFunction_of_checkModule hchecked rfl
  rw [← hlimit]
  refine ⟨⟨fun hsame => ?_, echo_run_whole hexports hnul hsize hechoes⟩, fun hlong => ?_⟩
  · refine Nat.le_of_not_lt fun hlong => ?_
    exact echo_run_ne hexports hnul hsize hechoes hlong hsame
  · obtain ⟨front, next, count, hcut⟩ := Utf8.exists_cutAt hlong
    exact ⟨front, next, count, hcut, echo_run_cut hexports hnul hsize hechoes hcut⟩

/-! ## A guest that echoes -/

/-- A guest with memory at one address for whatever it is to keep, which answers all other
functions with their first argument and leaves everything as it is. -/
def idleGuest : GuestProgram Unit where
  exports := fullExports
  imports := []
  invoke name arguments state :=
    (.ok (if name = Export.malloc then 16 else arguments.headD 0), state)

theorem idleGuest_echoes {state : GuestState Unit} {bytes : Bytes}
    (hfits : 16 + bytes.length ≤ state.memory.size) :
    Echoes idleGuest state bytes 16 state (state.put 16 bytes) (state.put 16 bytes) where
  allocates := ⟨rfl, by decide, hfits⟩
  answers := rfl
  unchanged := rfl
  releases := ⟨16, rfl⟩

/-- Three characters of two, three and four bytes come back. -/
theorem echo_of_three_characters :
    let inst := Instance.new Settings.default (LinearMemory.zeros 1) ()
    (echo "é€𝄞" idleGuest inst).1 = .ok ("é€𝄞", true) := by
  intro inst
  have hchecked : checkModule idleGuest.exports idleGuest.imports = .ok () := rfl
  have hechoes : Echoes idleGuest inst.state (Utf8.encode "é€𝄞" ++ [0]) 16 inst.state _ _ :=
    idleGuest_echoes (by decide +kernel)
  have hlimit : inst.maxStringLength =
      max Settings.default.maxLogLength Instance.stringLengthFloor := rfl
  obtain ⟨hsame, -⟩ := echo_up_to_the_limit hchecked Settings.default hlimit (by decide)
    (by decide +kernel) hechoes
  exact hsame.mpr (by decide +kernel)

/-- The limit is 65536 bytes under the default settings.  A text of one byte more stands in
the guest's memory from beginning to end, and does not come back. -/
theorem long_text_does_not_come_back :
    let text := String.ofList (List.replicate 65537 'a')
    let inst := Instance.new Settings.default (LinearMemory.zeros 2) ()
    let written := inst.state.put 16 (Utf8.encode text ++ [0])
    checkModule idleGuest.exports idleGuest.imports = .ok () ∧ '\x00' ∉ text.toList ∧
      (Utf8.encode text).length + 1 < 2 ^ 31 ∧
      Echoes idleGuest inst.state (Utf8.encode text ++ [0]) 16 inst.state written written ∧
      (echo text idleGuest inst).1 ≠ .ok (text, true) := by
  intro text inst written
  -- the text is too long to be evaluated; its length and its letters are known all the same
  have hlength : (Utf8.encode text).length = 65537 := by
    rw [Utf8.encode, String.toList_ofList, List.length_flatMap, List.map_replicate,
      List.sum_replicate_nat]
    rfl
  have hnul : '\x00' ∉ text.toList := by
    rw [String.toList_ofList]
    intro hmem
    exact absurd (List.eq_of_mem_replicate hmem) (by decide)
  have hechoes : Echoes idleGuest inst.state (Utf8.encode text ++ [0]) 16 inst.state written
      written := idleGuest_echoes (by
    rw [List.length_append, hlength]
    decide)
  have hsize : (Utf8.encode text).length + 1 < 2 ^ 31 := by
    rw [hlength]
    decide
  have hlong : inst.maxStringLength < (Utf8.encode text).length := by
    rw [hlength]
    decide
  exact ⟨rfl, hnul, hsize, hechoes, echo_run_ne rfl hnul hsize hechoes hlong⟩

end GuestHost.Harness

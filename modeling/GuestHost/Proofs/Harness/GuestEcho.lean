import GuestHost.Instance.Scripted
import GuestHost.Proofs.Harness.Outcomes
import GuestHost.Proofs.Harness.Runs
import GuestHost.Proofs.Text.Utf8

/-!
# A string given to a guest and echoed

The harness lays out a string, a descriptor of it and room for another descriptor in
memory that the guest allocates three times, and passes the two descriptors' pointers.
Between the three writes the guest runs, and so it is the allocator's promise not to
touch what has been written (`EchoMemory`) that makes the layout hold when `guest_echo` is
called (`EchoMemory.lent`).

From then on the guest may do to memory what it likes.  If it keeps to the contract
(`Echoed`), the harness has the same string back and releases what there is to be released, in
order (`readEcho_run`); if it spoils what the contract is about (`Spoiled`), the harness reports
an error (`readEcho_ne_ok`, `readEcho_orderly`).  For both the call is cut in two: `readEcho` is
all that comes after `guest_echo`.
-/

namespace GuestHost.Harness

variable {γ : Type} {program : GuestProgram γ} {inst : Instance γ} {message : Bytes}
  {data input output : Int32} {first second third : GuestState γ}

/-! ## The layout -/

/-- The descriptor of a string that stands at a pointer. -/
def descriptorOf (message : Bytes) (data : Int32) : Descriptor :=
  ⟨data.toUInt32, UInt32.ofNat message.length⟩

/-- The descriptor has been laid out, first null and then for the string. -/
def putDescriptor (state : GuestState γ) (message : Bytes) (data input : Int32) :
    GuestState γ :=
  (state.put input.toInt.toNat Descriptor.zero.toBytes).put input.toInt.toNat
    (descriptorOf message data).toBytes

/-- The guest allocates memory for a string and for two descriptors, all apart from each
other, and leaves what has been written before as it is. -/
structure EchoMemory (program : GuestProgram γ) (state : GuestState γ) (message : Bytes)
    (data input output : Int32) (first second third : GuestState γ) : Prop where
  allocatesData : Allocates program state message.length data first
  allocatesInput : Allocates program (first.put data.toInt.toNat message) Descriptor.size input
    second
  allocatesOutput : Allocates program (putDescriptor second message data input)
    Descriptor.size output third
  dataKept : (first.put data.toInt.toNat message).memory.Keeps second.memory data.toInt.toNat
    message.length
  dataKeptAgain : (putDescriptor second message data input).memory.Keeps third.memory
    data.toInt.toNat message.length
  inputKept : (putDescriptor second message data input).memory.Keeps third.memory
    input.toInt.toNat Descriptor.size
  dataInput : LinearMemory.Apart data.toInt.toNat message.length input.toInt.toNat
    Descriptor.size
  dataOutput : LinearMemory.Apart data.toInt.toNat message.length output.toInt.toNat
    Descriptor.size
  inputOutput : LinearMemory.Apart input.toInt.toNat Descriptor.size output.toInt.toNat
    Descriptor.size

/-- The state in which `guest_echo` is called. -/
def lentState (third : GuestState γ) (output : Int32) : GuestState γ :=
  third.put output.toInt.toNat Descriptor.zero.toBytes

/-- What stands in memory when `guest_echo` is called: the string, its descriptor, and
the null descriptor. -/
structure Lent (memory : LinearMemory) (message : Bytes) (data input output : Int32) : Prop where
  holdsData : memory.Holds data.toInt.toNat message
  holdsInput : memory.Holds input.toInt.toNat (descriptorOf message data).toBytes
  holdsOutput : memory.Holds output.toInt.toNat Descriptor.zero.toBytes

/-- None of the writes clobbers what an earlier one has written. -/
theorem EchoMemory.lent {state : GuestState γ}
    (hmemory : EchoMemory program state message data input output first second third) :
    Lent (lentState third output).memory message data input output := by
  -- the string is kept by the guest twice, and is apart from both descriptors
  have hfirst : (first.put data.toInt.toNat message).memory.Holds data.toInt.toNat message :=
    LinearMemory.holds_overwrite hmemory.allocatesData.fits
  have hsecond : (putDescriptor second message data input).memory.Holds data.toInt.toNat
      message :=
    ((hfirst.of_keeps hmemory.dataKept).overwrite hmemory.dataInput).overwrite
      hmemory.dataInput
  have hinput : (putDescriptor second message data input).memory.Holds input.toInt.toNat
      (descriptorOf message data).toBytes :=
    LinearMemory.holds_overwrite hmemory.allocatesInput.fits
  exact {
    holdsData := (hsecond.of_keeps hmemory.dataKeptAgain).overwrite hmemory.dataOutput
    holdsInput := (hinput.of_keeps hmemory.inputKept).overwrite hmemory.inputOutput
    holdsOutput := LinearMemory.holds_overwrite hmemory.allocatesOutput.fits }

/-! ## The call -/

/-- What is left to be done when `guest_echo` has come back. -/
def readEcho (input output : Int32) : Harness γ String := do
  let consumed ← read fun memory => memory.readDescriptor input
  if consumed ≠ Descriptor.zero then fail (.descriptorKept consumed)
  else
    let returned ← read fun memory => memory.readDescriptor output
    if returned.isNull then fail .nullDescriptor
    else
      let bytes ← read fun memory =>
        memory.readBytes returned.pointer.toInt32 returned.length.toInt32
      callVoid Export.guestStringFree .take [output]
      free input
      free output
      match Utf8.decode? bytes with
      | some echoed => return echoed
      | none => fail (.notText Export.guestEcho)

/-- The instance when `guest_echo` has come back. -/
def afterEcho (inst : Instance γ) (message : Bytes) (input output : Int32)
    (echoed : GuestState γ) : Instance γ where
  state := echoed
  calls := [⟨Export.guestEcho, [input, output]⟩, ⟨Export.malloc, [8]⟩, ⟨Export.malloc, [8]⟩,
    ⟨Export.malloc, [Int32.ofNat message.length]⟩] ++ inst.calls
  maxStringLength := inst.maxStringLength

/-- The first half of the call comes back if `guest_echo` does, wherever the guest has
allocated memory. -/
theorem guestEcho_run_of_allocates {text : String} {echoed : GuestState γ}
    (hexports : exportsFunction program Export.guestEcho .takeTwo = true)
    (hsize : (Utf8.encode text).length < 2 ^ 31)
    (hdata : Allocates program inst.state (Utf8.encode text).length data first)
    (hinput : Allocates program (first.put data.toInt.toNat (Utf8.encode text)) Descriptor.size
      input second)
    (houtput : Allocates program (putDescriptor second (Utf8.encode text) data input)
      Descriptor.size output third)
    (hecho : Returns program Export.guestEcho [input, output] (lentState third output) echoed) :
    guestEcho text program inst = readEcho input output program
      (afterEcho inst (Utf8.encode text) input output echoed) := by
  have hlength : ¬ 2 ^ 32 ≤ (Utf8.encode text).length := by omega
  have hdescriptor : Descriptor.zero.toBytes.length < 2 ^ 31 := by decide
  let written := ((inst.called Export.malloc [Int32.ofNat (Utf8.encode text).length] first).put
    data.toInt.toNat (Utf8.encode text)).called Export.malloc [8] second
  have hwritten : writeDescriptor input (descriptorOf (Utf8.encode text) data) program
      (written.put input.toInt.toNat Descriptor.zero.toBytes) = (.ok (), _) :=
    writeDescriptor_run hinput.toCount? hinput.fits
  rw [guestEcho, Attempt.bind_of_ok (writeBytes_run hsize hdata), if_neg hlength,
    Attempt.bind_of_ok (writeBytes_run hdescriptor hinput)]
  refine (Attempt.bind_of_ok hwritten).trans ?_
  rw [Attempt.bind_of_ok (writeBytes_run hdescriptor houtput),
    Attempt.bind_of_ok (callVoid_run hexports hecho)]
  rfl

theorem guestEcho_run {text : String} {echoed : GuestState γ}
    (hexports : exportsFunction program Export.guestEcho .takeTwo = true)
    (hsize : (Utf8.encode text).length < 2 ^ 31)
    (hmemory : EchoMemory program inst.state (Utf8.encode text) data input output first second
      third)
    (hecho : Returns program Export.guestEcho [input, output] (lentState third output) echoed) :
    guestEcho text program inst = readEcho input output program
      (afterEcho inst (Utf8.encode text) input output echoed) :=
  guestEcho_run_of_allocates hexports hsize hmemory.allocatesData hmemory.allocatesInput
    hmemory.allocatesOutput hecho

/-! ## A guest that keeps to the contract -/

/-- The guest has reset the argument's descriptor, and answered with another one of the
same string. -/
structure Echoed (memory : LinearMemory) (message : Bytes) (input output : Int32)
    (pointer : UInt32) : Prop where
  consumed : memory.Holds input.toInt.toNat Descriptor.zero.toBytes
  positive : 0 < pointer.toNat
  small : pointer.toNat < 2 ^ 31
  returned : memory.Holds output.toInt.toNat
    (Descriptor.mk pointer (UInt32.ofNat message.length)).toBytes
  echoed : memory.Holds pointer.toNat message

/-- The string that has come back and the two descriptors are released. -/
structure Releases (program : GuestProgram γ) (state : GuestState γ) (input output : Int32)
    (first second third : GuestState γ) : Prop where
  string : Returns program Export.guestStringFree [output] state first
  input : Returns program Export.free [input] first second
  output : Returns program Export.free [output] second third

/-- The instance when everything has been released. -/
def afterReleases (inst : Instance γ) (input output : Int32) (released : GuestState γ) :
    Instance γ where
  state := released
  calls := [⟨Export.free, [output]⟩, ⟨Export.free, [input]⟩,
    ⟨Export.guestStringFree, [output]⟩] ++ inst.calls
  maxStringLength := inst.maxStringLength

theorem readEcho_run {text : String} {pointer : UInt32}
    (hexports : exportsFunction program Export.guestStringFree .take = true)
    (hsize : (Utf8.encode text).length < 2 ^ 31)
    (hinput : Word.toCount? input = some input.toInt.toNat)
    (houtput : Word.toCount? output = some output.toInt.toNat)
    (hechoed : Echoed inst.state.memory (Utf8.encode text) input output pointer)
    (hreleases : Releases program inst.state input output first second third) :
    readEcho input output program inst = (.ok text, afterReleases inst input output third) := by
  have hconsumed : inst.state.memory.readDescriptor input = .ok Descriptor.zero :=
    LinearMemory.readDescriptor_eq_ok_iff.mpr ⟨_, hinput, hechoed.consumed⟩
  have hreturned : inst.state.memory.readDescriptor output =
      .ok ⟨pointer, UInt32.ofNat (Utf8.encode text).length⟩ :=
    LinearMemory.readDescriptor_eq_ok_iff.mpr ⟨_, houtput, hechoed.returned⟩
  have hnull : ¬ (Descriptor.mk pointer (UInt32.ofNat (Utf8.encode text).length)).isNull := by
    have hpositive := hechoed.positive
    simp only [Descriptor.isNull, beq_iff_eq]
    rintro rfl
    exact absurd hpositive (by decide)
  -- pointer and length are below the signed words, so they are read as what they are
  have hcount : Word.toCount? (UInt32.ofNat (Utf8.encode text).length).toInt32 =
      some (Utf8.encode text).length := by
    rw [UInt32.toInt32_ofNat']
    exact Word.toCount?_ofNat hsize
  have hplace : Word.toCount? pointer.toInt32 = some pointer.toNat := by
    rw [Word.toCount?_toInt32, if_pos hechoed.small]
  have hbytes : inst.state.memory.readBytes pointer.toInt32
      (UInt32.ofNat (Utf8.encode text).length).toInt32 = .ok (Utf8.encode text) :=
    LinearMemory.readBytes_eq_ok_iff.mpr ⟨_, hplace, hcount, hechoed.echoed⟩
  rw [readEcho, Attempt.bind_of_ok (read_run hconsumed), if_neg (not_not_intro rfl),
    Attempt.bind_of_ok (read_run hreturned), if_neg hnull, Attempt.bind_of_ok (read_run hbytes),
    Attempt.bind_of_ok (callVoid_run hexports hreleases.string),
    Attempt.bind_of_ok (free_run hreleases.input),
    Attempt.bind_of_ok (free_run hreleases.output), Utf8.decode?_encode]
  rfl

/-! ## A guest that spoils it -/

/-- What the guest can have done to memory that the harness has to notice. -/
inductive Spoiled (memory : LinearMemory) (input output : Int32) : Prop
  /-- The argument's descriptor has not been reset. -/
  | kept (descriptor : Descriptor) (hkept : descriptor ≠ Descriptor.zero)
      (hinput : memory.Holds input.toInt.toNat descriptor.toBytes)
  /-- There is no string. -/
  | null (descriptor : Descriptor) (hnull : descriptor.pointer = 0)
      (houtput : memory.Holds output.toInt.toNat descriptor.toBytes)
  /-- The string does not lie inside, or its pointer or its length has a sign. -/
  | outside (descriptor : Descriptor)
      (houtput : memory.Holds output.toInt.toNat descriptor.toBytes)
      (houtside : 2 ^ 31 ≤ descriptor.pointer.toNat ∨ 2 ^ 31 ≤ descriptor.length.toNat ∨
        memory.size < descriptor.pointer.toNat + descriptor.length.toNat)
  /-- The string is no text. -/
  | notText (descriptor : Descriptor) (bytes : Bytes)
      (houtput : memory.Holds output.toInt.toNat descriptor.toBytes)
      (hlength : bytes.length = descriptor.length.toNat)
      (hbytes : memory.Holds descriptor.pointer.toNat bytes)
      (htext : Utf8.decode? bytes = none)

/-- What a text has been read from: the argument's descriptor was reset, and the other
one is a text's. -/
theorem readEcho_eq_ok {text : String} {after : Instance γ}
    (hrun : readEcho input output program inst = (.ok text, after)) :
    inst.state.memory.readDescriptor input = .ok Descriptor.zero ∧
      ∃ descriptor bytes, inst.state.memory.readDescriptor output = .ok descriptor ∧
        descriptor.pointer ≠ 0 ∧
        inst.state.memory.readBytes descriptor.pointer.toInt32 descriptor.length.toInt32 =
          .ok bytes ∧
        Utf8.decode? bytes = some text := by
  unfold readEcho at hrun
  obtain ⟨consumed, middle, hread, htaken⟩ := Attempt.bind_eq_ok hrun
  obtain ⟨hconsumed, rfl⟩ := read_eq_ok hread
  split at htaken
  · cases htaken
  · next hreset =>
      obtain ⟨descriptor, middle, hread, hgiven⟩ := Attempt.bind_eq_ok htaken
      obtain ⟨hdescriptor, rfl⟩ := read_eq_ok hread
      split at hgiven
      · cases hgiven
      · next hnull =>
          obtain ⟨bytes, middle, hread, hreleases⟩ := Attempt.bind_eq_ok hgiven
          obtain ⟨hbytes, rfl⟩ := read_eq_ok hread
          -- the releases may change memory, but not the bytes that were read before
          obtain ⟨_, _, _, hinputs⟩ := Attempt.bind_eq_ok hreleases
          obtain ⟨_, _, _, houtputs⟩ := Attempt.bind_eq_ok hinputs
          obtain ⟨_, _, _, htext⟩ := Attempt.bind_eq_ok houtputs
          refine ⟨Decidable.not_not.mp hreset ▸ hconsumed, descriptor, bytes, hdescriptor, ?_,
            hbytes, ?_⟩
          · simpa [Descriptor.isNull] using hnull
          · cases hdecode : Utf8.decode? bytes with
            | none =>
                rw [hdecode] at htext
                cases htext
            | some echoed =>
                rw [hdecode] at htext
                cases htext
                rfl

/-- There is no text to be read from a memory that is spoiled. -/
theorem readEcho_ne_ok (hinput : Word.toCount? input = some input.toInt.toNat)
    (houtput : Word.toCount? output = some output.toInt.toNat)
    (hspoiled : Spoiled inst.state.memory input output) (text : String) (after : Instance γ) :
    readEcho input output program inst ≠ (.ok text, after) := by
  intro hrun
  obtain ⟨hconsumed, descriptor, bytes, hreturned, hnull, hbytes, htext⟩ := readEcho_eq_ok hrun
  -- no other descriptor than the one that was read stands at the second pointer
  have hsame : ∀ other : Descriptor,
      inst.state.memory.Holds output.toInt.toNat other.toBytes → other = descriptor := by
    intro other hother
    have hread : inst.state.memory.readDescriptor output = .ok other :=
      LinearMemory.readDescriptor_eq_ok_iff.mpr ⟨_, houtput, hother⟩
    exact Except.ok.inj (hread.symm.trans hreturned)
  obtain ⟨start, hstart, hcount, hholds⟩ := LinearMemory.readBytes_eq_ok_iff.mp hbytes
  rw [Word.toCount?_toInt32] at hstart hcount
  cases hspoiled with
  | kept other hkept hother =>
      have hread : inst.state.memory.readDescriptor input = .ok other :=
        LinearMemory.readDescriptor_eq_ok_iff.mpr ⟨_, hinput, hother⟩
      exact hkept (Except.ok.inj (hread.symm.trans hconsumed))
  | null other hzero hother =>
      obtain rfl := hsame other hother
      exact hnull hzero
  | outside other hother houtside =>
      obtain rfl := hsame other hother
      have hfits := hholds.fits
      split at hstart
      · split at hcount
        · have hplace := Option.some.inj hstart
          have hlength := Option.some.inj hcount
          omega
        · cases hcount
      · cases hstart
  | notText other found hother hlength hfound hnone =>
      obtain rfl := hsame other hother
      split at hstart
      · split at hcount
        · cases hstart
          have hunique : found = bytes :=
            hfound.unique hholds (hlength.trans (Option.some.inj hcount))
          rw [← hunique, hnone] at htext
          cases htext
        · cases hcount
      · cases hstart

theorem readEcho_orderly (input output : Int32) :
    Orderly (readEcho input output : Harness γ String) := by
  refine .bind (.read _) fun consumed => .ite (.fail _) (.bind (.read _) fun returned =>
    .ite (.fail _) (.bind (.read _) fun bytes => .bind (.callVoid _ _ _) fun _ =>
      .bind (.free _) fun _ => .bind (.free _) fun _ => ?_))
  split
  · exact .pure _
  · exact .fail _

/-! ## Any guest -/

/-- A string is echoed by a guest of which nothing is known but where it allocates.  When
`guest_echo` is called the string and the two descriptors stand in memory, none written
over by another.  A guest that keeps to the contract has the harness come back with the
string, after exactly these calls; a guest that spoils it has it come back with an error. -/
theorem guestEcho_with_any_guest (inst : Instance γ) (text : String)
    (hchecked : checkModule program.exports program.imports = .ok ())
    (hsize : (Utf8.encode text).length < 2 ^ 31)
    (hmemory : EchoMemory program inst.state (Utf8.encode text) data input output first second
      third) :
    Lent (lentState third output).memory (Utf8.encode text) data input output ∧
    ∀ echoed,
      Returns program Export.guestEcho [input, output] (lentState third output) echoed →
      (∀ pointer freed freedInput freedOutput,
        Echoed echoed.memory (Utf8.encode text) input output pointer →
        Releases program echoed input output freed freedInput freedOutput →
        ∃ after, guestEcho text program inst = (.ok text, after) ∧
          after.calls = [⟨Export.free, [output]⟩, ⟨Export.free, [input]⟩,
            ⟨Export.guestStringFree, [output]⟩, ⟨Export.guestEcho, [input, output]⟩,
            ⟨Export.malloc, [8]⟩, ⟨Export.malloc, [8]⟩,
            ⟨Export.malloc, [Int32.ofNat (Utf8.encode text).length]⟩] ++ inst.calls) ∧
      (Spoiled echoed.memory input output →
        ∃ error after, guestEcho text program inst = (.error (.error error), after)) := by
  have hinput := hmemory.allocatesInput.toCount?
  have houtput := hmemory.allocatesOutput.toCount?
  refine ⟨hmemory.lent, fun echoed hecho => ?_⟩
  rw [guestEcho_run (exportsFunction_of_checkModule hchecked rfl) hsize hmemory hecho]
  refine ⟨fun pointer freed freedInput freedOutput hechoed hreleases => ?_, fun hspoiled => ?_⟩
  · exact ⟨_, readEcho_run (exportsFunction_of_checkModule hchecked rfl) hsize hinput houtput
      hechoed hreleases, rfl⟩
  · exact (readEcho_orderly input output).exists_error (readEcho_ne_ok hinput houtput hspoiled)

/-- The scripted guest echoes a string with a zero byte and a letter of two bytes. -/
theorem guestEcho_of_scripted_guest :
    let text := "a\x00é"
    let inst := ScriptedGuest.start Settings.default 1
    ∃ after, guestEcho text ScriptedGuest.program inst = (.ok text, after) ∧
      after.calls = [⟨Export.free, [4136]⟩, ⟨Export.free, [4120]⟩,
        ⟨Export.guestStringFree, [4136]⟩, ⟨Export.guestEcho, [4120, 4136]⟩,
        ⟨Export.malloc, [8]⟩, ⟨Export.malloc, [8]⟩, ⟨Export.malloc, [4]⟩] := by
  intro text inst
  let message := Utf8.encode text
  let data : Int32 := 4104
  let input : Int32 := 4120
  let output : Int32 := 4136
  let run := ScriptedGuest.program.invoke
  let first := (run Export.malloc [Int32.ofNat message.length] inst.state).2
  let second := (run Export.malloc [Int32.ofNat Descriptor.size]
    (first.put data.toInt.toNat message)).2
  let third := (run Export.malloc [Int32.ofNat Descriptor.size]
    (putDescriptor second message data input)).2
  -- the states of the guest, one after each of its calls
  let echoed := (run Export.guestEcho [input, output] (lentState third output)).2
  let freed := (run Export.guestStringFree [output] echoed).2
  let freedInput := (run Export.free [input] freed).2
  let freedOutput := (run Export.free [output] freedInput).2
  have hchecked : checkModule ScriptedGuest.program.exports ScriptedGuest.program.imports =
      .ok () := rfl
  have hmemory : EchoMemory ScriptedGuest.program inst.state message data input output first
      second third := {
    allocatesData :=
      ⟨invoke_of_toOption (by decide +kernel), by decide, by decide +kernel⟩
    allocatesInput :=
      ⟨invoke_of_toOption (by decide +kernel), by decide, by decide +kernel⟩
    allocatesOutput :=
      ⟨invoke_of_toOption (by decide +kernel), by decide, by decide +kernel⟩
    dataKept := .of_slice_eq (by decide +kernel) (by decide +kernel)
    dataKeptAgain := .of_slice_eq (by decide +kernel) (by decide +kernel)
    inputKept := .of_slice_eq (by decide +kernel) (by decide +kernel)
    dataInput := .of_le (by decide)
    dataOutput := .of_le (by decide)
    inputOutput := .of_le (by decide) }
  have hecho : Returns ScriptedGuest.program Export.guestEcho [input, output]
      (lentState third output) echoed :=
    ⟨0, invoke_of_toOption (by decide +kernel)⟩
  have hechoed : Echoed echoed.memory message input output 4152 :=
    ⟨by decide +kernel, by decide, by decide, by decide +kernel, by decide +kernel⟩
  have hreleases : Releases ScriptedGuest.program echoed input output freed freedInput
      freedOutput :=
    ⟨⟨0, invoke_of_toOption (by decide +kernel)⟩, ⟨0, invoke_of_toOption (by decide +kernel)⟩,
      ⟨0, invoke_of_toOption (by decide +kernel)⟩⟩
  obtain ⟨-, hany⟩ := guestEcho_with_any_guest inst text hchecked (by decide +kernel) hmemory
  obtain ⟨after, hrun, hcalls⟩ :=
    (hany echoed hecho).1 4152 freed freedInput freedOutput hechoed hreleases
  have hlength : (Utf8.encode text).length = 4 := by decide +kernel
  rw [hlength] at hcalls
  exact ⟨after, hrun, hcalls⟩

end GuestHost.Harness

import GuestHost.Instance.Scripted
import GuestHost.Proofs.Harness.Runs
import GuestHost.Proofs.Sample.Entry
import GuestHost.Session.Run

/-!
# Bytes given to a guest and received back

The harness writes bytes into the guest's memory, the guest makes a frame of the first
of them, and the harness reads the frame.  How the guest does so is not known, only
that its `ReceiveByteArray` answers what the exported function of the sample answers
on a block of the same bytes (`Mirrors`).  Then the harness has the bytes back that it asked
for, or learns that there are not so many.

* `Mirrors.readFrame`, `Mirrors.eq_zero`: what the harness finds at such an answer, for a
  length that the block has and for any other.
* `receiveByteArray_end_to_end`: what it makes of either.
-/

namespace GuestHost

variable {σ γ : Type}

/-! ## The exported function where every request is granted -/

namespace Entry

variable {world : World σ} {machine : Machine σ} {address : Address} {block : Block}
  {length : Int32}

/-- A length that the block has is answered with the frame of as many bytes. -/
theorem receiveByteArray_answers {count : Nat}
    (hfound : machine.heap.find? address = some block) (hnull : address ≠ 0)
    (hcount : Word.toCount? length = some count) (hfits : count ≤ block.capacity)
    (hgranted : (world.answer machine (Frame.headerSize + count)).isSome) :
    ∃ out framed after, out ≠ 0 ∧ receiveByteArray address length world machine = (.ok out, after) ∧
      after.heap.find? out = some framed ∧
      framed.contents = Word.toBytes length.toUInt32 ++ block.contents.take count := by
  obtain ⟨out, hanswer⟩ := Option.isSome_iff_exists.mp hgranted
  obtain ⟨framed, hcontents, hrun⟩ :=
    receiveByteArray_run_granted hfound hnull hcount hfits hanswer
  have hfresh := World.fresh_of_answer hanswer
  have hapart : out ≠ address := by
    rintro rfl
    rw [hfound] at hfresh
    cases hfresh
  refine ⟨out, framed, _, World.answer_ne_zero hanswer, hrun, ?_, hcontents⟩
  rw [Machine.heap_free, Heap.find?_erase, if_neg hapart, Machine.find?_grant_self hfresh]

/-- Any other length is answered with the null pointer. -/
theorem receiveByteArray_refuses (world : World σ)
    (hfound : machine.heap.find? address = some block) (hnull : address ≠ 0)
    (hinvalid : ∀ count, Word.toCount? length = some count → block.capacity < count) :
    ∃ after, receiveByteArray address length world machine = (.ok 0, after) :=
  ⟨_, receiveByteArray_run_invalid hfound hnull hinvalid⟩

end Entry

/-! ## A guest that answers alike -/

/-- A guest's answer mirrors that of native code: it is the null pointer for the null
pointer, and for a block it is a pointer to where all the block's bytes stand.  Behind
the pointer there is room for a header among the signed words. -/
def Mirrors (native : Except Stop Address × Machine σ) (answer : Int32)
    (memory : LinearMemory) : Prop :=
  ∀ address after, native = (.ok address, after) →
    if address = 0 then answer = 0
    else ∃ start block, Word.toCount? answer = some start ∧ 0 < start ∧
      start ≤ 2 ^ 31 - 1 - Frame.headerSize ∧ after.heap.find? address = some block ∧
      memory.Holds start block.contents

namespace Mirrors

variable {world : World σ} {machine : Machine σ} {address : Address} {block : Block}
  {length answer : Int32} {memory : LinearMemory}

/-- For a length that the block has, a frame of as many bytes can be read at the answer. -/
theorem readFrame {count : Nat}
    (hmirrors : Mirrors (Entry.receiveByteArray address length world machine) answer memory)
    (hfound : machine.heap.find? address = some block) (hnull : address ≠ 0)
    (hcount : Word.toCount? length = some count) (hfits : count ≤ block.capacity)
    (hgranted : (world.answer machine (Frame.headerSize + count)).isSome) :
    answer ≠ 0 ∧ memory.readFrame answer = .ok (block.contents.take count) := by
  obtain ⟨out, framed, after, hout, hrun, hframed, hcontents⟩ :=
    Entry.receiveByteArray_answers hfound hnull hcount hfits hgranted
  have hmirror := hmirrors out after hrun
  rw [if_neg hout] at hmirror
  obtain ⟨start, other, hanswer, hpositive, hroom, hother, hholds⟩ := hmirror
  obtain rfl : framed = other := Option.some.inj (hframed.symm.trans hother)
  rw [hcontents] at hholds
  have htaken : (block.contents.take count).length = count := by
    rw [List.length_take, block.length_contents, Nat.min_eq_left hfits]
  refine ⟨Word.ne_zero_of_toCount? hanswer hpositive,
    LinearMemory.readFrame_of_holds hanswer ?_ (htaken.symm ▸ hcount) hholds⟩
  simp only [Frame.headerSize] at *
  omega

/-- For any other length the answer is the null pointer. -/
theorem eq_zero
    (hmirrors : Mirrors (Entry.receiveByteArray address length world machine) answer memory)
    (hfound : machine.heap.find? address = some block) (hnull : address ≠ 0)
    (hinvalid : ∀ count, Word.toCount? length = some count → block.capacity < count) :
    answer = 0 := by
  obtain ⟨after, hrun⟩ := Entry.receiveByteArray_refuses world hfound hnull hinvalid
  have hmirror := hmirrors 0 after hrun
  rwa [if_pos rfl] at hmirror

end Mirrors

namespace Harness

variable {program : GuestProgram γ} {inst : Instance γ} {data payload : Bytes}
  {pointer length answer : Int32} {allocated received released : GuestState γ}

/-- The instance when the guest has answered. -/
def afterReceive (inst : Instance γ) (data : Bytes) (pointer length : Int32)
    (allocated received : GuestState γ) : Instance γ :=
  ((inst.called Export.malloc [Int32.ofNat data.length] allocated).put pointer.toInt.toNat
    data).called Export.receiveByteArray [pointer, length] received

section Answered

variable (hexports : exportsFunction program Export.receiveByteArray .binary = true)
  (hsize : data.length < 2 ^ 31)
  (hmalloc : Allocates program inst.state data.length pointer allocated)

include hexports hsize hmalloc

/-- The null pointer is what there is to learn, and nothing is left to be released. -/
theorem tryReceiveByteArray_run_null
    (hreceive : program.invoke Export.receiveByteArray [pointer, length]
      (allocated.put pointer.toInt.toNat data) = (.ok 0, received)) :
    tryReceiveByteArray data length program inst =
      (.ok none, afterReceive inst data pointer length allocated received) := by
  rw [tryReceiveByteArray, Attempt.bind_of_ok (writeBytes_run hsize hmalloc),
    Attempt.bind_of_ok (call_run hexports hreceive)]
  rfl

/-- A frame is read, and then released. -/
theorem tryReceiveByteArray_run_some
    (hreceive : program.invoke Export.receiveByteArray [pointer, length]
      (allocated.put pointer.toInt.toNat data) = (.ok answer, received))
    (hanswer : answer ≠ 0) (hframe : received.memory.readFrame answer = .ok payload)
    (hfree : Returns program Export.free [answer] received released) :
    tryReceiveByteArray data length program inst =
      (.ok (some payload), (afterReceive inst data pointer length allocated received).called
        Export.free [answer] released) := by
  let answered := afterReceive inst data pointer length allocated received
  have hread : readFrame answer program answered = (.ok payload, answered) :=
    readFrame_run hframe
  have hfreed : free answer program answered =
      (.ok (), answered.called Export.free [answer] released) := free_run hfree
  rw [tryReceiveByteArray, Attempt.bind_of_ok (writeBytes_run hsize hmalloc),
    Attempt.bind_of_ok (call_run hexports hreceive), if_neg hanswer]
  refine (Attempt.bind_of_ok hread).trans ?_
  rw [Attempt.bind_of_ok hfreed]
  rfl

end Answered

/-- All the bytes are received if as many are asked for as there are. -/
theorem receiveByteArray_run {after : Instance γ} (hlength : length.toInt = data.length)
    (hrun : tryReceiveByteArray data length program inst = (.ok (some payload), after)) :
    receiveByteArray data program inst = (.ok payload, after) := by
  have hword : Word.ofCount? data.length = some length :=
    Word.ofCount?_of_toCount? (Word.toCount?_eq_some_iff.mpr hlength)
  rw [receiveByteArray, hword]
  simp only
  rw [receiveByteArrayWithLength, Attempt.bind_of_ok hrun]
  rfl

/-- Bytes are written into the memory of a guest whose answer mirrors that of the
exported function on a block of the bytes that it finds there.  The first of them come
back as many as were asked for, if there are as many, and the frame they came in is
released once; else there is nothing to come back, and nothing is released. -/
theorem receiveByteArray_end_to_end (inst : Instance γ) (data : Bytes) (world : World σ)
    (machine : Machine σ) {address : Address} {block : Block}
    (hchecked : checkModule program.exports program.imports = .ok ())
    (hsize : data.length < 2 ^ 31)
    (hmalloc : Allocates program inst.state data.length pointer allocated)
    (hfound : machine.heap.find? address = some block) (hnull : address ≠ 0)
    (hgranted : ∀ capacity ≤ Frame.headerSize + data.length,
      (world.answer machine capacity).isSome)
    (hcapacity : block.capacity = data.length)
    (hblock : (allocated.put pointer.toInt.toNat data).memory.Holds pointer.toInt.toNat
      block.contents)
    (hreceive : program.invoke Export.receiveByteArray [pointer, length]
      (allocated.put pointer.toInt.toNat data) = (.ok answer, received))
    (hmirrors : Mirrors (Entry.receiveByteArray address length world machine) answer
      received.memory)
    (hfree : answer ≠ 0 → Returns program Export.free [answer] received released) :
    ∃ after,
      tryReceiveByteArray data length program inst =
        (.ok (if 0 ≤ length.toInt ∧ length.toInt ≤ data.length then
          some (data.take length.toInt.toNat) else none), after) ∧
      after.calls =
        (if 0 ≤ length.toInt ∧ length.toInt ≤ data.length then [⟨Export.free, [answer]⟩]
          else []) ++
        [⟨Export.receiveByteArray, [pointer, length]⟩,
          ⟨Export.malloc, [Int32.ofNat data.length]⟩] ++ inst.calls ∧
      (length.toInt = data.length →
        receiveByteArray data program inst = (.ok data, after)) := by
  have hexports : exportsFunction program Export.receiveByteArray .binary = true :=
    exportsFunction_of_checkModule hchecked rfl
  -- the guest finds the bytes that the harness has written
  have hdata : block.contents = data :=
    hblock.unique (LinearMemory.holds_overwrite hmalloc.fits)
      (block.length_contents.trans hcapacity)
  by_cases hvalid : 0 ≤ length.toInt ∧ length.toInt ≤ data.length
  · have hcount := Word.toCount?_of_nonneg hvalid.1
    have hfits : length.toInt.toNat ≤ block.capacity := by
      rw [hcapacity]
      omega
    obtain ⟨hanswer, hframe⟩ := hmirrors.readFrame hfound hnull hcount hfits
      (hgranted _ (Nat.add_le_add_left (hcapacity ▸ hfits) _))
    rw [hdata] at hframe
    have hrun := tryReceiveByteArray_run_some hexports hsize hmalloc hreceive hanswer hframe
      (hfree hanswer)
    simp only [if_pos hvalid]
    refine ⟨_, hrun, rfl, fun hwhole => ?_⟩
    rw [hwhole, Int.toNat_natCast, List.take_length] at hrun
    exact receiveByteArray_run hwhole hrun
  · have hinvalid : ∀ count, Word.toCount? length = some count → block.capacity < count := by
      intro count hcount
      rw [Word.toCount?_eq_some_iff] at hcount
      omega
    obtain rfl := hmirrors.eq_zero hfound hnull hinvalid
    simp only [if_neg hvalid]
    exact ⟨_, tryReceiveByteArray_run_null hexports hsize hmalloc hreceive, rfl,
      fun hwhole => absurd ⟨by omega, by omega⟩ hvalid⟩

/-- Three bytes, one of them zero and one no text, come back from the scripted guest. -/
theorem receiveByteArray_three_bytes :
    let data : Bytes := [0x61, 0x00, 0xFF]
    let inst := ScriptedGuest.start Settings.default 1
    ∃ after, tryReceiveByteArray data 3 ScriptedGuest.program inst = (.ok (some data), after) ∧
      after.calls = [⟨Export.free, [4120]⟩, ⟨Export.receiveByteArray, [4104, 3]⟩,
        ⟨Export.malloc, [3]⟩] ∧
      receiveByteArray data ScriptedGuest.program inst = (.ok data, after) := by
  intro data inst
  let pointer : Int32 := 4104
  let answer : Int32 := 4120
  let allocated :=
    (ScriptedGuest.program.invoke Export.malloc [Int32.ofNat data.length] inst.state).2
  let lent := allocated.put pointer.toInt.toNat data
  let received :=
    (ScriptedGuest.program.invoke Export.receiveByteArray [pointer, 3] lent).2
  -- the native function is run on a block of the same bytes at address 8
  let block : Block := ⟨3, data, 11, rfl, rfl⟩
  let framed : Block := ⟨7, [3, 0, 0, 0, 0x61, 0x00, 0xFF], 15, rfl, rfl⟩
  let machine : Machine Recording := .start (Heap.empty.insert 8 block rfl) {}
  let world : World Recording :=
    ⟨SystemAllocator.refusing none, Recording.host 1 0, Recording.rounds 1⟩
  let native := (Entry.receiveByteArray 8 3 world machine).2
  have hchecked : checkModule ScriptedGuest.program.exports ScriptedGuest.program.imports =
      .ok () := rfl
  have hmalloc : Allocates ScriptedGuest.program inst.state data.length pointer allocated :=
    ⟨invoke_of_toOption (by decide +kernel), by decide, by decide +kernel⟩
  have hgranted : ∀ capacity ≤ Frame.headerSize + data.length,
      (world.answer machine capacity).isSome := by
    decide +kernel
  have hblock : lent.memory.Holds pointer.toInt.toNat block.contents := by
    decide +kernel
  have hreceive : ScriptedGuest.program.invoke Export.receiveByteArray [pointer, 3] lent =
      (.ok answer, received) :=
    invoke_of_toOption (by decide +kernel)
  have hmirrors : Mirrors (Entry.receiveByteArray 8 3 world machine) answer received.memory := by
    intro address after hrun
    have hnative : Entry.receiveByteArray 8 3 world machine = (.ok 9, native) := rfl
    obtain ⟨rfl, rfl⟩ : 9 = address ∧ native = after := by simpa [hnative] using hrun
    exact ⟨4120, framed, by decide, by decide, by decide, by decide +kernel,
      by decide +kernel⟩
  have hfree : Returns ScriptedGuest.program Export.free [answer] received _ :=
    ⟨0, invoke_of_toOption (by decide +kernel)⟩
  have hfound : machine.heap.find? 8 = some block := rfl
  obtain ⟨after, hrun, hcalls, hwhole⟩ := receiveByteArray_end_to_end inst data world machine
    hchecked (by decide) hmalloc hfound (by decide) hgranted rfl hblock hreceive hmirrors
    fun _ => hfree
  exact ⟨after, hrun, hcalls, hwhole rfl⟩

end Harness

end GuestHost

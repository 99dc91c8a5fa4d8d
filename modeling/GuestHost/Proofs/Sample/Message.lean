import GuestHost.Proofs.Guest.Handles
import GuestHost.Proofs.Guest.Log
import GuestHost.Sample.Message

/-!
# What the samples that own their messages do to a machine

Each equation says which lines are printed, which blocks are granted and released,
and in which order.

* `print_run`, `printUsingHostPrint_run`, `printUpper_run`: a message is printed and released,
  the last one when its letters are those of `Block.upper`.
* `receiveByteArray_run_granted`, `receiveByteArray_run_denied`: a frame is asked for first, and
  the data is released in either case.
* `echoString_run_granted`, `echoString_run_denied`: a string has its block released whether it
  could be copied or not; the copy is granted before that, so it never stands where the string
  stood.
-/

namespace GuestHost

/-- A block with its first bytes in upper-case letters. -/
def Block.upper (block : Block) (count : Nat) (hfits : count ≤ block.capacity) : Block :=
  block.write 0 ((block.contents.take count).map Bytes.upperAscii) <| by
    rw [List.length_map, List.length_take, block.length_contents]
    omega

theorem Block.take_ne_nil {block : Block} {count : Nat} (hpositive : 0 < count)
    (hfits : count ≤ block.capacity) : block.contents.take count ≠ [] := by
  intro hnil
  have hlength := congrArg List.length hnil
  rw [List.length_take, block.length_contents, List.length_nil] at hlength
  omega

namespace Sample

variable {σ : Type} {world : World σ} {machine : Machine σ} {address : Address} {block : Block}

theorem toUpper_of_ne_nil {bytes : Bytes} (hnonempty : bytes ≠ []) :
    toUpper bytes = some (bytes.map Bytes.upperAscii) := by
  simp [toUpper, List.isEmpty_iff, hnonempty]

/-! ## Printing a message -/

section Text

variable {text : OwnedCString}

theorem print_run (hfound : machine.heap.find? text.buffer.address = some block)
    (hnull : text.buffer.address ≠ 0) (hlength : text.length < text.buffer.length)
    (hfits : text.buffer.length ≤ block.capacity) (hzero : block.contents[text.length]? = some 0) :
    print text world machine =
      (.ok (),
        (machine.say world.host block.contents.untilNul).free text.buffer.address block) := by
  have hsaid : (machine.say world.host block.contents.untilNul).heap.find? text.buffer.address =
      some block := hfound
  rw [print, Attempt.bind_of_ok (OwnedCString.cString_run hfound hlength hfits hzero),
    Attempt.bind_of_ok (Guest.print_run _)]
  exact OwnedCString.release_run hsaid hnull

theorem printUsingHostPrint_run (hfound : machine.heap.find? text.buffer.address = some block)
    (hnull : text.buffer.address ≠ 0) (hlength : text.length < text.buffer.length)
    (hfits : text.buffer.length ≤ block.capacity) (hzero : block.contents[text.length]? = some 0) :
    printUsingHostPrint text world machine =
      (.ok (Word.clamp text.length),
        (machine.say world.host block.contents.untilNul).free text.buffer.address block) := by
  rw [printUsingHostPrint, Attempt.bind_of_ok (print_run hfound hnull hlength hfits hzero)]
  rfl

/-- An empty message is printed as it is. -/
theorem printUpper_run_empty (hfound : machine.heap.find? text.buffer.address = some block)
    (hnull : text.buffer.address ≠ 0) (hempty : text.length = 0)
    (hlength : text.length < text.buffer.length) (hfits : text.buffer.length ≤ block.capacity)
    (hzero : block.contents[text.length]? = some 0) :
    printUpper text world machine =
      (.ok (),
        (machine.say world.host block.contents.untilNul).free text.buffer.address block) := by
  have hnone : toUpper (block.contents.take text.length) = none := by
    rw [hempty]
    rfl
  rw [printUpper, Attempt.bind_of_ok (OwnedCString.bytes_run hfound hlength hfits)]
  simp only [hnone]
  exact print_run hfound hnull hlength hfits hzero

/-- The message is printed as it stands in its block when its letters are upper case. -/
theorem printUpper_run (world : World σ) (text : OwnedCString)
    (hfound : machine.heap.find? text.buffer.address = some block)
    (hnull : text.buffer.address ≠ 0) (hpositive : 0 < text.length)
    (hlength : text.length < text.buffer.length) (hfits : text.buffer.length ≤ block.capacity)
    (hzero : block.contents[text.length]? = some 0) :
    ∃ upper : Block, upper = block.upper text.length (by omega) ∧
      printUpper text world machine =
        (.ok (), ((machine.patch text.buffer.address upper).say world.host
          upper.contents.untilNul).free text.buffer.address upper) := by
  have hcontents := block.length_contents
  have hsome : toUpper (block.contents.take text.length) =
      some ((block.contents.take text.length).map Bytes.upperAscii) :=
    toUpper_of_ne_nil (Block.take_ne_nil hpositive (by omega))
  have hpatch : 0 + ((block.contents.take text.length).map Bytes.upperAscii).length ≤
      text.length := by
    rw [List.length_map, List.length_take]
    omega
  -- the terminator stands behind the letters, so it is still there to print up to
  have hterminator : (block.upper text.length (by omega)).contents[text.length]? = some 0 := by
    simp only [Block.upper, Block.write]
    rw [Bytes.getElem?_splice (Nat.zero_le _) hpatch, hzero]
  have hpatched : (machine.patch text.buffer.address (block.upper text.length
      (by omega))).heap.find? text.buffer.address = some (block.upper text.length (by omega)) :=
    Machine.find?_patch_self _ hfound
  refine ⟨_, rfl, ?_⟩
  rw [printUpper, Attempt.bind_of_ok (OwnedCString.bytes_run hfound hlength hfits)]
  simp only [hsome]
  rw [Attempt.bind_of_ok (OwnedCString.write_run hfound hpatch hlength hfits)]
  exact print_run hpatched hnull hlength hfits hterminator

end Text

/-! ## Framing a buffer -/

section Buffer

variable (data : OwnedBuffer)

theorem receiveByteArray_run_denied {header : Bytes}
    (hfound : machine.heap.find? data.address = some block) (hnull : data.address ≠ 0)
    (hheader : Frame.header (block.contents.take data.length).length = .ok header)
    (hanswer : world.answer machine
      (Frame.headerSize + (block.contents.take data.length).length) = none) :
    receiveByteArray data world machine =
      (.ok none, ((machine.deny (Frame.headerSize + (block.contents.take data.length).length)).say
        world.host (errorLine Export.receiveByteArray (.allocationFailed
          (Frame.headerSize + (block.contents.take data.length).length)))).free
        data.address block) := by
  have hsaid : ((machine.deny (Frame.headerSize + (block.contents.take data.length).length)).say
      world.host (errorLine Export.receiveByteArray (.allocationFailed
        (Frame.headerSize + (block.contents.take data.length).length)))).heap.find? data.address =
      some block := by
    rw [Machine.heap_say, Machine.heap_deny, hfound]
  rw [receiveByteArray, Attempt.bind_of_ok (OwnedBuffer.bytes_run hfound),
    Attempt.bind_of_ok (OwnedBuffer.framed_run_denied hheader hanswer)]
  simp only
  rw [Attempt.bind_of_ok (report_run _ _), Attempt.bind_of_ok (OwnedBuffer.release_run hsaid hnull)]
  rfl

theorem receiveByteArray_run_granted {header : Bytes}
    (hfound : machine.heap.find? data.address = some block) (hnull : data.address ≠ 0)
    (hheader : Frame.header (block.contents.take data.length).length = .ok header)
    (hanswer : world.answer machine
      (Frame.headerSize + (block.contents.take data.length).length) = some address) :
    ∃ framed : Block, framed.contents = header ++ block.contents.take data.length ∧
      receiveByteArray data world machine =
        (.ok (some ⟨address, Frame.headerSize + (block.contents.take data.length).length⟩),
          (machine.grant address framed).free data.address block) := by
  obtain ⟨framed, hcontents, hrun⟩ := OwnedBuffer.framed_run_granted hheader hanswer
  have hfresh := World.fresh_of_answer hanswer
  have hgranted : (machine.grant address framed).heap.find? data.address = some block :=
    Machine.find?_grant_of_find? _ hfresh hfound
  refine ⟨framed, hcontents, ?_⟩
  rw [receiveByteArray, Attempt.bind_of_ok (OwnedBuffer.bytes_run hfound), Attempt.bind_of_ok hrun]
  simp only
  rw [Attempt.bind_of_ok (OwnedBuffer.release_run hgranted hnull)]
  rfl

end Buffer

/-! ## Copying a string -/

section Echo

variable {string : GuestString} {place : Place}

theorem copyString_run_denied (hwithin : string.Within machine.heap)
    (hanswer : world.answer machine (string.contents machine.heap).length = none) :
    copyString string world machine =
      (.ok GuestString.empty, (machine.deny (string.contents machine.heap).length).say world.host
        (errorLine Export.guestEcho
          (.allocationFailed (string.contents machine.heap).length))) := by
  rw [copyString, Attempt.bind_of_ok (GuestString.bytes_run hwithin),
    Attempt.bind_of_ok (OwnedBuffer.ofBytes_run_denied hanswer)]
  simp only
  rw [Attempt.bind_of_ok (report_run _ _)]
  rfl

theorem copyString_run_granted (hwithin : string.Within machine.heap)
    (hanswer : world.answer machine (string.contents machine.heap).length = some address) :
    ∃ copy : Block, copy.contents = string.contents machine.heap ∧
      copyString string world machine =
        (.ok ⟨address, (string.contents machine.heap).length⟩, machine.grant address copy) := by
  obtain ⟨copy, hcontents, hrun⟩ := OwnedBuffer.ofBytes_run_granted hanswer
  refine ⟨copy, hcontents, ?_⟩
  rw [copyString, Attempt.bind_of_ok (GuestString.bytes_run hwithin), Attempt.bind_of_ok hrun]
  rfl

theorem echoString_run_none : echoString none world machine = (.ok GuestString.empty, machine) :=
  rfl

/-- What is copied is freed where it stands, with the machine that the copying has left. -/
theorem echoString_run {copy : GuestString} {middle : Machine σ}
    (hcopy : copyString (machine.strings place) world machine = (.ok copy, middle))
    (hstrings : middle.strings place = machine.strings place)
    (hwithin : (machine.strings place).Within middle.heap) :
    echoString (some place) world machine =
      (.ok copy, (middle.drop (machine.strings place).pointer).setString place .empty) := by
  rw [echoString, Attempt.bind_of_ok (Guest.readString_run place), Attempt.bind_of_ok hcopy]
  simp only
  rw [Attempt.bind_of_ok (GuestString.free_run hstrings hwithin)]
  rfl

theorem echoString_run_denied (hstring : machine.strings place = string)
    (hwithin : string.Within machine.heap)
    (hanswer : world.answer machine (string.contents machine.heap).length = none) :
    echoString (some place) world machine =
      (.ok GuestString.empty,
        (((machine.deny (string.contents machine.heap).length).say world.host
          (errorLine Export.guestEcho
            (.allocationFailed (string.contents machine.heap).length))).drop
              string.pointer).setString place .empty) := by
  subst hstring
  refine echoString_run (copyString_run_denied hwithin hanswer) ?_ ?_
  · exact congrFun (Machine.strings_deny ..) place
  · rw [Machine.heap_say, Machine.heap_deny]
    exact hwithin

theorem echoString_run_granted (hstring : machine.strings place = string)
    (hwithin : string.Within machine.heap)
    (hanswer : world.answer machine (string.contents machine.heap).length = some address) :
    ∃ copy : Block, copy.contents = string.contents machine.heap ∧
      echoString (some place) world machine =
        (.ok ⟨address, (string.contents machine.heap).length⟩,
          ((machine.grant address copy).drop string.pointer).setString place .empty) := by
  subst hstring
  obtain ⟨copy, hcontents, hrun⟩ := copyString_run_granted hwithin hanswer
  have hfresh := World.fresh_of_answer hanswer
  have hafter : (machine.strings place).Within (machine.grant address copy).heap :=
    hwithin.imp_right fun ⟨block, hfound, hfits⟩ =>
      ⟨block, Machine.find?_grant_of_find? _ hfresh hfound, hfits⟩
  exact ⟨copy, hcontents, echoString_run hrun rfl hafter⟩

end Echo

end Sample

end GuestHost

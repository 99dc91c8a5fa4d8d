import GuestHost.Proofs.Abi.Outcome
import GuestHost.Proofs.Sample.Entry

/-!
# A byte array that is taken over

A block that is taken over comes back as a frame in another block, or not at all.  It comes
back if the length is one that the block has and there is room for the frame; `Refuses` lists
what else there can be, each with the line that reports it.  Whatever it is, the block is
released.  There are two places where that happens: a length that the block does not have
releases it before the report, a frame that there is no room for after it.

* `errorLine_nullPointer`, `errorLine_invalidLength`, `errorLine_frameRefused`: the three lines.
* `granted_or_refuses`: there is no other case.
* `receiveByteArray_outcome_null`, `receiveByteArray_outcome_granted`,
  `receiveByteArray_outcome_refused`: the call in each case.
* `byte_array_is_framed_or_refused`: all of them together.
-/

namespace GuestHost.Entry

variable {σ : Type} {world : World σ} {machine : Machine σ} {address out : Address}
  {block : Block} {length : Int32} {count : Nat}

/-! ## The lines -/

/-- The line that reports that there is no block. -/
def nullPointerLine : Bytes :=
  Utf8.encode
    "[ERROR] ReceiveByteArray: Null pointer passed where an owned buffer was expected\n"

/-- The line that reports that the block does not have the length. -/
def invalidLengthLine (length : Int32) (capacity : Nat) : Bytes :=
  Utf8.encode (s!"[ERROR] ReceiveByteArray: Invalid length {length.toInt}" ++
    s!" for a buffer of capacity {capacity}\n")

/-- The line that reports that there is no room for the frame. -/
def frameRefusedLine (size : Nat) : Bytes :=
  Utf8.encode s!"[ERROR] ReceiveByteArray: Allocation of {size} bytes failed\n"

theorem zero_notMem_receiveByteArray : '\x00' ∉ Export.receiveByteArray.toList := by decide

theorem errorLine_nullPointer :
    Sample.errorLine Export.receiveByteArray .nullPointer = nullPointerLine := by
  rw [Sample.errorLine_eq zero_notMem_receiveByteArray, nullPointerLine]
  decide +kernel

theorem errorLine_invalidLength (length : Int32) (capacity : Nat) :
    Sample.errorLine Export.receiveByteArray (.invalidLength length capacity) =
      invalidLengthLine length capacity := by
  have hhead : "[ERROR] ReceiveByteArray: Invalid length " =
      "[ERROR] " ++ (Export.receiveByteArray ++ (": " ++ "Invalid length ")) := by decide
  have hmessage : (GuestError.invalidLength length capacity).message = "Invalid length " ++
      toString length.toInt ++ " for a buffer of capacity " ++ toString capacity := rfl
  have hline : invalidLengthLine length capacity = Utf8.encode
      ("[ERROR] ReceiveByteArray: Invalid length " ++ toString length.toInt ++
        (" for a buffer of capacity " ++ toString capacity ++ "\n")) := rfl
  rw [Sample.errorLine_eq zero_notMem_receiveByteArray, hmessage, hline, hhead]
  simp only [String.append_assoc]

theorem errorLine_frameRefused (size : Nat) :
    Sample.errorLine Export.receiveByteArray (.allocationFailed size) = frameRefusedLine size := by
  have hhead : "[ERROR] ReceiveByteArray: Allocation of " =
      "[ERROR] " ++ (Export.receiveByteArray ++ (": " ++ "Allocation of ")) := by decide
  have hend : " bytes failed\n" = " bytes failed" ++ "\n" := by decide
  have hmessage : (GuestError.allocationFailed size).message =
      "Allocation of " ++ toString size ++ " bytes failed" := rfl
  have hline : frameRefusedLine size = Utf8.encode ("[ERROR] ReceiveByteArray: Allocation of " ++
      toString size ++ " bytes failed\n") := rfl
  rw [Sample.errorLine_eq zero_notMem_receiveByteArray, hmessage, hline, hhead, hend]
  simp only [String.append_assoc]

/-! ## The cases -/

/-- Why nothing is given back for a block and a length, by the line that reports it. -/
inductive Refuses (world : World σ) (machine : Machine σ) (block : Block) (length : Int32) :
    Bytes → Prop
  /-- The length is negative or more than the block has. -/
  | invalidLength (hinvalid : length.toInt < 0 ∨ block.capacity < length.toInt) :
      Refuses world machine block length (invalidLengthLine length block.capacity)
  /-- The system does not grant a block for the header and the bytes. -/
  | allocationFailed (count : Nat) (hcount : length.toInt = count) (hfits : count ≤ block.capacity)
      (hanswer : world.answer machine (count + 4) = none) :
      Refuses world machine block length (frameRefusedLine (count + 4))

/-- A length is one that the block has and that there is room for, or there is a refusal. -/
theorem granted_or_refuses (world : World σ) (machine : Machine σ) (block : Block)
    (length : Int32) :
    (∃ (count : Nat) (out : Address), length.toInt = count ∧ count ≤ block.capacity ∧
      world.answer machine (count + 4) = some out) ∨
    ∃ line, Refuses world machine block length line := by
  by_cases hvalid : 0 ≤ length.toInt ∧ length.toInt ≤ block.capacity
  · obtain ⟨count, hcount⟩ := Int.eq_ofNat_of_zero_le hvalid.1
    have hfits : count ≤ block.capacity := by omega
    cases hanswer : world.answer machine (count + 4) with
    | some out => exact .inl ⟨count, out, hcount, hfits, hanswer⟩
    | none => exact .inr ⟨_, .allocationFailed count hcount hfits hanswer⟩
  · exact .inr ⟨_, .invalidLength (by omega)⟩

theorem receiveByteArray_outcome_null (world : World σ) (machine : Machine σ) (length : Int32) :
    ∃ after, receiveByteArray 0 length world machine = (.ok 0, after) ∧
      Outcome world.host machine after none none [nullPointerLine] := by
  have houtcome := (Outcome.refl world.host machine).say nullPointerLine
  rw [← errorLine_nullPointer] at houtcome ⊢
  exact ⟨_, receiveByteArray_run_null, houtcome⟩

theorem receiveByteArray_outcome_granted (hfound : machine.heap.find? address = some block)
    (hnull : address ≠ 0) (hcount : length.toInt = count) (hfits : count ≤ block.capacity)
    (hanswer : world.answer machine (count + 4) = some out) :
    ∃ made after, receiveByteArray address length world machine = (.ok out, after) ∧
      made.capacity = count + 4 ∧
      made.contents = Word.toBytes length.toUInt32 ++ block.contents.take count ∧
      Outcome world.host machine after (some address) (some (out, made)) [] := by
  have hasked : world.answer machine (Frame.headerSize + count) = some out := by
    rw [Nat.add_comm]
    exact hanswer
  obtain ⟨made, hcontents, hrun⟩ := receiveByteArray_run_granted hfound hnull
    (Word.toCount?_eq_some_iff.mpr hcount) hfits hasked
  have hcapacity : made.capacity = count + 4 := by
    rw [← made.length_contents, hcontents, List.length_append, Word.length_toBytes,
      List.length_take, block.length_contents, Nat.min_eq_left hfits, Nat.add_comm]
  have houtcome := (Outcome.refl world.host machine).grant made
    (World.answer_ne_zero hanswer) (World.fresh_of_answer hanswer)
  exact ⟨made, _, hrun, hcapacity, hcontents, houtcome.free hfound⟩

/-- Whatever the error, the block is released and the error reported. -/
theorem receiveByteArray_outcome_refused {line : Bytes}
    (hfound : machine.heap.find? address = some block) (hnull : address ≠ 0)
    (hrefuses : Refuses world machine block length line) :
    ∃ after, receiveByteArray address length world machine = (.ok 0, after) ∧
      Outcome world.host machine after (some address) none [line] := by
  have hstart := Outcome.refl world.host machine
  cases hrefuses with
  | invalidLength hinvalid =>
      rw [← errorLine_invalidLength]
      have hcounts : ∀ count, Word.toCount? length = some count → block.capacity < count := by
        intro count hcount
        rw [Word.toCount?_eq_some_iff] at hcount
        omega
      exact ⟨_, receiveByteArray_run_invalid hfound hnull hcounts, (hstart.free hfound).say _⟩
  | allocationFailed count hcount hfits hanswer =>
      rw [← errorLine_frameRefused, Nat.add_comm]
      rw [Nat.add_comm] at hanswer
      exact ⟨_, receiveByteArray_run_denied hfound hnull (Word.toCount?_eq_some_iff.mpr hcount)
        hfits hanswer, ((hstart.deny _).say _).free hfound⟩

/-- A null pointer is reported, and nothing else happens.  A live block comes back as a frame
of its first bytes in a block that was not there before, without a word, if the length is one
that it has and the system grants that block.  Otherwise the null pointer comes back and one
line tells the error.  The block is released in either case, and no other block is touched. -/
theorem byte_array_is_framed_or_refused (world : World σ) (machine : Machine σ)
    (length : Int32) :
    (∃ after, receiveByteArray 0 length world machine = (.ok 0, after) ∧
      Outcome world.host machine after none none [nullPointerLine]) ∧
    ∀ address block, address ≠ 0 → machine.heap.find? address = some block →
      (∀ (count : Nat) (out : Address), length.toInt = count → count ≤ block.capacity →
        world.answer machine (count + 4) = some out →
        ∃ made after, receiveByteArray address length world machine = (.ok out, after) ∧
          made.capacity = count + 4 ∧
          made.contents = Word.toBytes length.toUInt32 ++ block.contents.take count ∧
          Outcome world.host machine after (some address) (some (out, made)) []) ∧
      (∀ line, Refuses world machine block length line →
        ∃ after, receiveByteArray address length world machine = (.ok 0, after) ∧
          Outcome world.host machine after (some address) none [line]) ∧
      ((∃ (count : Nat) (out : Address), length.toInt = count ∧ count ≤ block.capacity ∧
          world.answer machine (count + 4) = some out) ∨
        ∃ line, Refuses world machine block length line) := by
  refine ⟨receiveByteArray_outcome_null world machine length, ?_⟩
  intro address block hnull hfound
  refine ⟨?_, ?_, granted_or_refuses world machine block length⟩
  · intro count out hcount hfits hanswer
    exact receiveByteArray_outcome_granted hfound hnull hcount hfits hanswer
  · intro line hrefuses
    exact receiveByteArray_outcome_refused hfound hnull hrefuses

/-- Three bytes come back behind their number, in another block.  A fourth there is not, and
if the system refuses its first request, they do not come back either.  Each time the block is
released, and the one beside it stays. -/
theorem three_bytes_are_framed_or_refused :
    let block : Block := ⟨3, [0x61, 0x00, 0xFF], 11, rfl, rfl⟩
    let other : Block := ⟨1, [7], 9, rfl, rfl⟩
    let machine : Machine Recording :=
      .start ((Heap.empty.insert 8 block rfl).insert 16 other rfl) {}
    let granting : World Recording :=
      ⟨SystemAllocator.refusing none, Recording.host 1 0, Recording.rounds 1⟩
    let refusing : World Recording :=
      ⟨SystemAllocator.refusing (some 1), Recording.host 1 0, Recording.rounds 1⟩
    machine.heap.find? 8 = some block ∧
    (∃ made after, receiveByteArray 8 3 granting machine = (.ok 17, after) ∧
      made.contents = [3, 0, 0, 0, 0x61, 0x00, 0xFF] ∧ after.heap.find? 17 = some made ∧
      after.heap.find? 8 = none ∧ after.heap.find? 16 = some other) ∧
    (∃ after, receiveByteArray 8 4 granting machine = (.ok 0, after) ∧
      after.heap.find? 8 = none ∧ after.heap.find? 16 = some other ∧
      Outcome granting.host machine after (some 8) none [invalidLengthLine 4 3]) ∧
    ∃ after, receiveByteArray 8 3 refusing machine = (.ok 0, after) ∧
      after.heap.find? 8 = none ∧ after.heap.find? 16 = some other ∧
      Outcome refusing.host machine after (some 8) none [frameRefusedLine 7] := by
  intro block other machine granting refusing
  have hfound : machine.heap.find? 8 = some block := rfl
  have hother : machine.heap.find? 16 = some other := rfl
  obtain ⟨-, hthree⟩ := byte_array_is_framed_or_refused granting machine 3
  obtain ⟨-, hfour⟩ := byte_array_is_framed_or_refused granting machine 4
  obtain ⟨-, hdenied⟩ := byte_array_is_framed_or_refused refusing machine 3
  obtain ⟨hframes, -, -⟩ := hthree 8 block (by decide) hfound
  obtain ⟨-, hrefuses, -⟩ := hfour 8 block (by decide) hfound
  obtain ⟨-, hdenies, -⟩ := hdenied 8 block (by decide) hfound
  obtain ⟨made, framed, hrun, -, hcontents, houtcome⟩ :=
    hframes 3 17 (by decide) (by decide) (by decide +kernel)
  obtain ⟨refused, hrefused, hreported⟩ := hrefuses _ (.invalidLength (.inr (by decide)))
  obtain ⟨denied, hdenied, htold⟩ :=
    hdenies _ (.allocationFailed 3 (by decide) (by decide) (by decide +kernel))
  refine ⟨hfound, ⟨made, framed, hrun, hcontents, (houtcome.here 17 made rfl).2.2,
    houtcome.gone 8 rfl, ?_⟩, ⟨refused, hrefused, hreported.gone 8 rfl, ?_, hreported⟩,
    denied, hdenied, htold.gone 8 rfl, ?_, htold⟩
  · rw [houtcome.kept 16 (by decide) (by simp), hother]
  · rw [hreported.kept 16 (by decide) nofun, hother]
  · rw [htold.kept 16 (by decide) nofun, hother]

end GuestHost.Entry

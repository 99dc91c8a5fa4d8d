import GuestHost.Proofs.Sample.Greeting
import GuestHost.Proofs.Sample.Message
import GuestHost.Proofs.Word
import GuestHost.Sample.Entry

/-!
# What the exported functions do to a machine

The equations of the samples, for bare addresses.  A null pointer, a length that is
none of the block's and a block without a terminator are reported, and the block is
released all the same, if there is one.

Each function has an equation for each case, named for the case: `malloc_run_denied`,
`receiveByteArray_run_invalid` and so on.  The functions that take a message over share theirs
(`adoptMessage_run_null`, `adoptMessage_run_unterminated`, `adoptMessage_run`).  The echo of a
string is told of the places that it writes to: `give` is the machine when the copy has been
given away, and `Delivers` what stands at the places then (`delivers_give`).
-/

namespace GuestHost.Entry

variable {σ : Type} {world : World σ} {machine : Machine σ} {address out : Address} {block : Block}

/-! ## The allocator -/

theorem malloc_run_negative {size : Int32} (hsize : Word.toCount? size = none) :
    malloc size world machine = (.ok 0, machine) := by
  rw [malloc, hsize]
  rfl

/-- There is the null pointer in the place of every error. -/
theorem malloc_run_of_allocate {size : Int32} {capacity : Nat}
    {outcome : Except GuestError Address} {after : Machine σ}
    (hsize : Word.toCount? size = some capacity)
    (hrun : Guest.allocate capacity world machine = (.ok outcome, after)) :
    malloc size world machine = (.ok (outcome.toOption.getD 0), after) := by
  rw [malloc, hsize]
  simp only
  rw [Attempt.bind_of_ok hrun]
  cases outcome <;> rfl

theorem malloc_run_denied {size : Int32} {capacity : Nat}
    (hsize : Word.toCount? size = some capacity)
    (hanswer : world.answer machine capacity = none) :
    malloc size world machine = (.ok 0, machine.deny capacity) :=
  malloc_run_of_allocate hsize (Guest.allocate_run_denied hanswer)

theorem malloc_run_granted {size : Int32} {capacity : Nat}
    (hsize : Word.toCount? size = some capacity)
    (hanswer : world.answer machine capacity = some address) :
    ∃ block : Block, block.contents = List.replicate capacity 0 ∧
      malloc size world machine = (.ok address, machine.grant address block) := by
  obtain ⟨block, hcontents, hrun⟩ := Guest.allocate_run_granted hanswer
  exact ⟨block, hcontents, malloc_run_of_allocate hsize hrun⟩

theorem free_run (hlive : address = 0 ∨ ∃ block, machine.heap.find? address = some block) :
    free address world machine = (.ok (), machine.drop address) :=
  Guest.release_run_drop hlive

/-! ## Lent messages -/

theorem helloWorld_run_null : helloWorld 0 world machine =
    (.ok (-1), machine.say world.host (Sample.errorLine Export.helloWorld .nullPointer)) := by
  rw [helloWorld, Attempt.bind_of_ok OwnedCString.lentBytes_run_null]
  simp only
  rw [Attempt.bind_of_ok (Sample.report_run _ _)]
  rfl

theorem helloWorld_run {length : Nat} (hfound : machine.heap.find? address = some block)
    (hnull : address ≠ 0) (hzero : block.contents.firstNul? = some length) :
    helloWorld address world machine = Sample.helloWorld block.contents.untilNul world machine := by
  rw [helloWorld, Attempt.bind_of_ok (OwnedCString.lentBytes_run hfound hnull hzero)]

theorem toUpper_run_null : toUpper 0 world machine = (.ok 0, machine) := rfl

theorem toUpper_run_empty (hfound : machine.heap.find? address = some block) (hnull : address ≠ 0)
    (hzero : block.contents.firstNul? = some 0) :
    toUpper address world machine = (.ok 0, machine) := by
  rw [toUpper, Attempt.bind_of_ok (OwnedCString.lentBytes_run hfound hnull hzero),
    ← Bytes.take_firstNul? hzero]
  rfl

/-- The message is in upper-case letters where it stands, and comes back. -/
theorem toUpper_run (world : World σ) {length : Nat}
    (hfound : machine.heap.find? address = some block) (hnull : address ≠ 0)
    (hfits : length + 1 ≤ block.capacity)
    (hzero : block.contents.firstNul? = some (length + 1)) :
    toUpper address world machine =
      (.ok address, machine.patch address (block.upper (length + 1) hfits)) := by
  have hlent : OwnedCString.lentBytes address world machine =
      (.ok (some (block.contents.take (length + 1))), machine) := by
    rw [OwnedCString.lentBytes_run hfound hnull hzero, Bytes.take_firstNul? hzero]
  have hsome : Sample.toUpper (block.contents.take (length + 1)) =
      some ((block.contents.take (length + 1)).map Bytes.upperAscii) :=
    Sample.toUpper_of_ne_nil (Block.take_ne_nil (Nat.succ_pos _) hfits)
  rw [toUpper, Attempt.bind_of_ok hlent]
  simp only [hsome]
  rw [Attempt.bind_of_ok (Guest.store_run hfound _)]
  rfl

/-! ## Messages that are taken over -/

section Adopting

variable {α : Type} {name : String} {refusal : α} {use : OwnedCString → Guest σ α}

theorem adoptMessage_run_null : adoptMessage name 0 refusal use world machine =
    (.ok refusal, machine.say world.host (Sample.errorLine name .nullPointer)) := by
  rw [adoptMessage, Attempt.bind_of_ok OwnedCString.adopt_run_null]
  simp only
  rw [Attempt.bind_of_ok (Sample.report_run _ _)]
  rfl

/-- A block without a terminator is released before that is reported. -/
theorem adoptMessage_run_unterminated (hfound : machine.heap.find? address = some block)
    (hnull : address ≠ 0) (hzero : block.contents.firstNul? = none) :
    adoptMessage name address refusal use world machine =
      (.ok refusal, (machine.free address block).say world.host
        (Sample.errorLine name (.missingTerminator block.capacity))) := by
  rw [adoptMessage, Attempt.bind_of_ok (OwnedCString.adopt_run_unterminated hfound hnull hzero)]
  simp only
  rw [Attempt.bind_of_ok (Sample.report_run _ _)]
  rfl

theorem adoptMessage_run {length : Nat} (hfound : machine.heap.find? address = some block)
    (hnull : address ≠ 0) (hzero : block.contents.firstNul? = some length) :
    adoptMessage name address refusal use world machine =
      use ⟨⟨address, block.capacity⟩, length⟩ world machine := by
  rw [adoptMessage, Attempt.bind_of_ok (OwnedCString.adopt_run hfound hnull hzero)]

end Adopting

section Terminated

variable {length : Nat}

theorem print_run (hfound : machine.heap.find? address = some block) (hnull : address ≠ 0)
    (hzero : block.contents.firstNul? = some length) :
    print address world machine =
      (.ok (), (machine.say world.host block.contents.untilNul).free address block) := by
  have hlength : length < block.capacity := Block.firstNul?_lt hzero
  rw [print, adoptMessage_run hfound hnull hzero]
  exact Sample.print_run hfound hnull hlength (Nat.le_refl _) (Bytes.getElem?_firstNul? hzero)

theorem printUsingHostPrint_run (hfound : machine.heap.find? address = some block)
    (hnull : address ≠ 0) (hzero : block.contents.firstNul? = some length) :
    printUsingHostPrint address world machine =
      (.ok (Word.clamp length),
        (machine.say world.host block.contents.untilNul).free address block) := by
  have hlength : length < block.capacity := Block.firstNul?_lt hzero
  rw [printUsingHostPrint, adoptMessage_run hfound hnull hzero]
  exact Sample.printUsingHostPrint_run hfound hnull hlength (Nat.le_refl _)
    (Bytes.getElem?_firstNul? hzero)

theorem printUpper_run_empty (hfound : machine.heap.find? address = some block)
    (hnull : address ≠ 0) (hzero : block.contents.firstNul? = some 0) :
    printUpper address world machine =
      (.ok (), (machine.say world.host block.contents.untilNul).free address block) := by
  have hlength : 0 < block.capacity := Block.firstNul?_lt hzero
  rw [printUpper, adoptMessage_run hfound hnull hzero]
  exact Sample.printUpper_run_empty hfound hnull rfl hlength (Nat.le_refl _)
    (Bytes.getElem?_firstNul? hzero)

theorem printUpper_run (hfound : machine.heap.find? address = some block) (hnull : address ≠ 0)
    (hpositive : 0 < length) (hfits : length ≤ block.capacity)
    (hzero : block.contents.firstNul? = some length) :
    printUpper address world machine =
      (.ok (), ((machine.patch address (block.upper length hfits)).say world.host
        (block.upper length hfits).contents.untilNul).free address (block.upper length hfits)) := by
  have hlength : length < block.capacity := Block.firstNul?_lt hzero
  obtain ⟨upper, rfl, hrun⟩ := Sample.printUpper_run world
    ⟨⟨address, block.capacity⟩, length⟩ hfound hnull hpositive hlength (Nat.le_refl _)
    (Bytes.getElem?_firstNul? hzero)
  rw [printUpper, adoptMessage_run hfound hnull hzero]
  exact hrun

end Terminated

/-! ## Buffers that are taken over -/

section Data

variable {length : Int32} {count : Nat}

theorem receiveByteArray_run_null : receiveByteArray 0 length world machine =
    (.ok 0, machine.say world.host (Sample.errorLine Export.receiveByteArray .nullPointer)) := by
  rw [receiveByteArray, Attempt.bind_of_ok OwnedBuffer.adopt_run_null]
  simp only
  rw [Attempt.bind_of_ok (Sample.report_run _ _)]
  rfl

/-- The block is released before the length is reported that it does not have. -/
theorem receiveByteArray_run_invalid (hfound : machine.heap.find? address = some block)
    (hnull : address ≠ 0)
    (hinvalid : ∀ count, Word.toCount? length = some count → block.capacity < count) :
    receiveByteArray address length world machine =
      (.ok 0, (machine.free address block).say world.host
        (Sample.errorLine Export.receiveByteArray (.invalidLength length block.capacity))) := by
  have htruncated : (⟨address, block.capacity⟩ : OwnedBuffer).truncate length world machine =
      (.ok (.error (.invalidLength length block.capacity)), machine.free address block) :=
    OwnedBuffer.truncate_run_invalid hfound hnull hinvalid
  rw [receiveByteArray, Attempt.bind_of_ok (OwnedBuffer.adopt_run hfound hnull)]
  simp only
  rw [Attempt.bind_of_ok htruncated]
  simp only
  rw [Attempt.bind_of_ok (Sample.report_run _ _)]
  rfl

/-- If there is no room for the frame, that is reported before the block is released. -/
theorem receiveByteArray_run_denied (hfound : machine.heap.find? address = some block)
    (hnull : address ≠ 0) (hcount : Word.toCount? length = some count)
    (hfits : count ≤ block.capacity)
    (hanswer : world.answer machine (Frame.headerSize + count) = none) :
    receiveByteArray address length world machine =
      (.ok 0, ((machine.deny (Frame.headerSize + count)).say world.host
        (Sample.errorLine Export.receiveByteArray
          (.allocationFailed (Frame.headerSize + count)))).free address block) := by
  have hlength : (block.contents.take count).length = count := by
    rw [List.length_take, block.length_contents, Nat.min_eq_left hfits]
  have hheader : Frame.header (block.contents.take count).length =
      .ok (Word.toBytes length.toUInt32) := by
    rw [hlength, Frame.header_of_toCount? hcount]
  have htruncated : (⟨address, block.capacity⟩ : OwnedBuffer).truncate length world machine =
      (.ok (.ok ⟨address, count⟩), machine) :=
    OwnedBuffer.truncate_run hfound hcount hfits
  have hdenied := Sample.receiveByteArray_run_denied ⟨address, count⟩ hfound hnull hheader
    (by rw [hlength, hanswer])
  rw [hlength] at hdenied
  rw [receiveByteArray, Attempt.bind_of_ok (OwnedBuffer.adopt_run hfound hnull)]
  simp only
  rw [Attempt.bind_of_ok htruncated]
  simp only
  rw [Attempt.bind_of_ok hdenied]
  rfl

theorem receiveByteArray_run_granted (hfound : machine.heap.find? address = some block)
    (hnull : address ≠ 0) (hcount : Word.toCount? length = some count)
    (hfits : count ≤ block.capacity)
    (hanswer : world.answer machine (Frame.headerSize + count) = some out) :
    ∃ framed : Block,
      framed.contents = Word.toBytes length.toUInt32 ++ block.contents.take count ∧
      receiveByteArray address length world machine =
        (.ok out, (machine.grant out framed).free address block) := by
  have hlength : (block.contents.take count).length = count := by
    rw [List.length_take, block.length_contents, Nat.min_eq_left hfits]
  have hheader : Frame.header (block.contents.take count).length =
      .ok (Word.toBytes length.toUInt32) := by
    rw [hlength, Frame.header_of_toCount? hcount]
  have htruncated : (⟨address, block.capacity⟩ : OwnedBuffer).truncate length world machine =
      (.ok (.ok ⟨address, count⟩), machine) :=
    OwnedBuffer.truncate_run hfound hcount hfits
  obtain ⟨framed, hcontents, hgranted⟩ := Sample.receiveByteArray_run_granted ⟨address, count⟩
    hfound hnull hheader (by rw [hlength, hanswer])
  refine ⟨framed, hcontents, ?_⟩
  rw [receiveByteArray, Attempt.bind_of_ok (OwnedBuffer.adopt_run hfound hnull)]
  simp only
  rw [Attempt.bind_of_ok htruncated]
  simp only
  rw [Attempt.bind_of_ok hgranted]
  rfl

end Data

theorem echo_run (hfound : machine.heap.find? address = some block) (hnull : address ≠ 0) :
    echo address world machine = (.ok address, machine) := by
  rw [echo, Attempt.bind_of_ok (OwnedBuffer.adopt_run hfound hnull)]
  rfl

/-! ## Strings that are taken over -/

section Echo

variable {before middle : Machine σ} {message result : Option Place} {place : Place}
  {string copy : GuestString}

/-- The machine when a copy has been written to the place of a result, or has been released
because there is no such place. -/
def give (machine : Machine σ) (result : Option Place) (copy : GuestString) : Machine σ :=
  match result with
  | some place => machine.setString place copy
  | none => machine.drop copy.pointer

/-- What stands at the places when a copy has been given: the copy where the result goes, the
empty string where the message stood unless the result goes there, and elsewhere what stood
there before. -/
structure Delivers (before after : Machine σ) (message result : Option Place)
    (copy : GuestString) : Prop where
  given : ∀ place, result = some place → after.strings place = copy
  emptied : ∀ place, message = some place → result ≠ some place → after.strings place = .empty
  kept : ∀ place, message ≠ some place → result ≠ some place →
    after.strings place = before.strings place

/-- The places are left to themselves until the message is freed; then the result is written. -/
theorem delivers_give (hstrings : middle.strings = before.strings) :
    Delivers before (give (middle.setString place .empty) result copy) (some place) result
      copy := by
  cases result with
  | none =>
      refine ⟨nofun, ?_, ?_⟩
      · rintro _ ⟨⟩ -
        rw [give, Machine.strings_drop, Machine.strings_setString_self]
      · intro other hother _
        have hne : other ≠ place := fun heq => hother (congrArg some heq.symm)
        rw [give, Machine.strings_drop, Machine.strings_setString_of_ne hne, hstrings]
  | some target =>
      refine ⟨?_, ?_, ?_⟩
      · rintro _ ⟨⟩
        exact Machine.strings_setString_self ..
      · rintro _ ⟨⟩ hresult
        have hne : place ≠ target := fun heq => hresult (congrArg some heq.symm)
        rw [give, Machine.strings_setString_of_ne hne, Machine.strings_setString_self]
      · intro other hother hresult
        have hmessage : other ≠ place := fun heq => hother (congrArg some heq.symm)
        have htarget : other ≠ target := fun heq => hresult (congrArg some heq.symm)
        rw [give, Machine.strings_setString_of_ne htarget,
          Machine.strings_setString_of_ne hmessage, hstrings]

theorem delivers_give_none :
    Delivers machine (give machine result .empty) none result .empty := by
  cases result with
  | none => exact ⟨nofun, nofun, fun _ _ _ => rfl⟩
  | some target =>
      refine ⟨?_, nofun, ?_⟩
      · rintro _ ⟨⟩
        exact Machine.strings_setString_self ..
      · intro other _ hresult
        exact Machine.strings_setString_of_ne (fun heq => hresult (congrArg some heq.symm)) _

theorem guestEcho_run (hecho : Sample.echoString message world machine = (.ok copy, middle))
    (hwithin : copy.Within middle.heap) :
    guestEcho message result world machine = (.ok (), give middle result copy) := by
  rw [guestEcho, Attempt.bind_of_ok hecho]
  cases result with
  | none => exact GuestString.release_run hwithin
  | some place => exact Guest.writeString_run place copy

theorem guestEcho_run_none :
    guestEcho none result world machine = (.ok (), give machine result .empty) :=
  guestEcho_run Sample.echoString_run_none (.inl rfl)

theorem guestEcho_run_denied (hstring : machine.strings place = string)
    (hwithin : string.Within machine.heap)
    (hanswer : world.answer machine (string.contents machine.heap).length = none) :
    guestEcho (some place) result world machine =
      (.ok (), give ((((machine.deny (string.contents machine.heap).length).say world.host
        (Sample.errorLine Export.guestEcho
          (.allocationFailed (string.contents machine.heap).length))).drop
            string.pointer).setString place .empty) result .empty) :=
  guestEcho_run (Sample.echoString_run_denied hstring hwithin hanswer) (.inl rfl)

theorem guestEcho_run_granted (result : Option Place)
    (hstring : machine.strings place = string)
    (hwithin : string.Within machine.heap)
    (hanswer : world.answer machine (string.contents machine.heap).length = some out) :
    ∃ copy : Block, copy.contents = string.contents machine.heap ∧
      guestEcho (some place) result world machine =
        (.ok (), give (((machine.grant out copy).drop string.pointer).setString place .empty)
          result ⟨out, (string.contents machine.heap).length⟩) := by
  obtain ⟨copy, hcontents, hrun⟩ := Sample.echoString_run_granted hstring hwithin hanswer
  have hfresh := World.fresh_of_answer hanswer
  have hapart : out ≠ string.pointer :=
    hwithin.ne_of_fresh (World.answer_ne_zero hanswer) hfresh
  -- the copy is still there when the string has been released
  have hcopy : ((machine.grant out copy).drop string.pointer).heap.find? out = some copy := by
    rw [Machine.find?_drop_of_ne hapart, Machine.find?_grant_self hfresh]
  refine ⟨copy, hcontents, guestEcho_run hrun (.inr ⟨copy, hcopy, ?_⟩)⟩
  exact Nat.le_of_eq (by rw [← copy.length_contents, hcontents])

end Echo

end GuestHost.Entry

import GuestHost.Proofs.Abi.Effects
import GuestHost.Proofs.Sample.Entry
import GuestHost.Session.Run

/-!
# The table of exported functions tells the truth about ownership

The table says of each exported function who has to release the argument and who the
result.  Independently of it the functions do what they do with addresses.  Here the
two are compared: for every exported function that a block crosses the boundary of,
whatever the heap, the argument and the answers of the system are, the call keeps to
what the table says about its name.

* `Obeys`: what the word of an `Ownership` asks for, in terms of two machines.
* `Effect.obeys`: how to read it off the effect of a call.
* `ExportCall.KeepsTo`: the call comes back and obeys; one lemma for each call, from
  `ExportCall.malloc_keepsTo` to `ExportCall.guestEcho_keepsTo`.
* `exports_keep_to_their_ownership`: all of the table.
-/

namespace GuestHost

/-- An address that is given back, unless it is the null pointer. -/
def nonNull (address : Address) : Option Address :=
  if address = 0 then none else some address

theorem nonNull_of_ne {address : Address} (hnull : address ≠ 0) :
    nonNull address = some address := if_neg hnull

/-- A call of an exported function that passes or gives back a block. -/
inductive ExportCall
  | helloWorld (message : Address)
  | receiveByteArray (data : Address) (length : Int32)
  | printUsingHostPrint (message : Address)
  | print (message : Address)
  | echo (message : Address)
  | toUpper (message : Address)
  | printUpper (message : Address)
  | guestEcho (message result : Option Place)
  | guestStringFree (message : Option Place)
  | malloc (size : Int32)
  | free (address : Address)

variable {σ : Type}

namespace ExportCall

/-- The name under which the function is exported. -/
def name : ExportCall → String
  | .helloWorld _ => Export.helloWorld
  | .receiveByteArray _ _ => Export.receiveByteArray
  | .printUsingHostPrint _ => Export.printUsingHostPrint
  | .print _ => Export.print
  | .echo _ => Export.echo
  | .toUpper _ => Export.toUpper
  | .printUpper _ => Export.printUpper
  | .guestEcho _ _ => Export.guestEcho
  | .guestStringFree _ => Export.guestStringFree
  | .malloc _ => Export.malloc
  | .free _ => Export.free

/-- The block that is passed: by its address, or by the place of a string that points
to it. -/
def argument? (machine : Machine σ) : ExportCall → Option Address
  | .helloWorld address | .receiveByteArray address _ | .printUsingHostPrint address
  | .print address | .echo address | .toUpper address | .printUpper address
  | .free address => some address
  | .guestEcho message _ | .guestStringFree message =>
    message.bind fun place => nonNull (machine.strings place).pointer
  | .malloc _ => none

/-- What a caller has to pass: the address of a live block, of a C string where one is
lent, or the place of a string that ends within its block. -/
def WellFormed (machine : Machine σ) : ExportCall → Prop
  | .helloWorld address | .toUpper address =>
    address ≠ 0 ∧ ∃ block length, machine.heap.find? address = some block ∧
      block.contents.firstNul? = some length
  | .receiveByteArray address _ | .printUsingHostPrint address | .print address
  | .echo address | .printUpper address | .free address =>
    address ≠ 0 ∧ ∃ block, machine.heap.find? address = some block
  | .guestEcho message _ | .guestStringFree message =>
    ∀ place, message = some place → (machine.strings place).Within machine.heap
  | .malloc _ => True

/-- The block of the string at the place of a result. -/
def givenAt : Option Place → Guest σ (Option Address)
  | none => return none
  | some place => do return nonNull (← Guest.readString place).pointer

/-- Make the call, and give the block back that it results in. -/
def run : ExportCall → Guest σ (Option Address)
  | .helloWorld message => do
    let _ ← Entry.helloWorld message
    return none
  | .receiveByteArray data length => do return nonNull (← Entry.receiveByteArray data length)
  | .printUsingHostPrint message => do
    let _ ← Entry.printUsingHostPrint message
    return none
  | .print message => do
    Entry.print message
    return none
  | .echo message => do return nonNull (← Entry.echo message)
  | .toUpper message => do return nonNull (← Entry.toUpper message)
  | .printUpper message => do
    Entry.printUpper message
    return none
  | .guestEcho message result => do
    Entry.guestEcho message result
    givenAt result
  | .guestStringFree message => do
    GuestString.free message
    return none
  | .malloc size => do return nonNull (← Entry.malloc size)
  | .free address => do
    Entry.free address
    return none

end ExportCall

/-- What a call has to do with the blocks, by what is said about its ownership. -/
structure Obeys (ownership : Ownership) (argument? result? : Option Address)
    (before after : Machine σ) : Prop where
  /-- Of the blocks that were there the argument is released, and once, if the guest has
  to do so; no other block is. -/
  released : ∀ address ∈ before.heap.live,
    releases address after.journal = releases address before.journal +
      if ownership.guestFreesArgument ∧ argument? = some address then 1 else 0
  /-- What the guest has to release is not live any more. -/
  gone : ownership.guestFreesArgument → ∀ address, argument? = some address →
    address ∉ after.heap.live
  /-- Every other block survives, and its bytes do, unless it is to be changed in place. -/
  kept : ∀ address block, before.heap.find? address = some block →
    ¬ (ownership.guestFreesArgument ∧ argument? = some address) →
      ∃ left : Block, after.heap.find? address = some left ∧ left.capacity = block.capacity ∧
        (left ≠ block → ownership = .inPlace ∧ argument? = some address)
  /-- A result that the caller has to release is live, and no block of anybody else. -/
  result : ownership.callerFreesResult → ∀ address, result? = some address →
    address ∈ after.heap.live ∧ (address ∈ before.heap.live → argument? = some address)
  /-- Nothing else is left behind. -/
  new : ∀ address ∈ after.heap.live, address ∉ before.heap.live →
    ownership.callerFreesResult ∧ result? = some address

variable {machine after : Machine σ}

/-- From the effect of a call to what it has to do. -/
theorem Effect.obeys {freed made written argument? result? : Option Address}
    {ownership : Ownership} (heffect : Effect machine after freed made written)
    (hfreed : freed = if ownership.guestFreesArgument then argument? else none)
    (hmade : ∀ address, made = some address →
      ownership.callerFreesResult ∧ result? = some address)
    (hwritten : ∀ address, written = some address →
      freed = some address ∨ ownership = .inPlace ∧ argument? = some address)
    (hresult : ∀ address, result? = some address → made = some address ∨
      argument? = some address ∧ address ∈ after.heap.live) :
    Obeys ownership argument? result? machine after := by
  -- `freed` is the argument exactly where the guest has to release it
  have hiff : ∀ address, freed = some address ↔
      (ownership.guestFreesArgument = true ∧ argument? = some address) := by
    intro address
    rw [hfreed]
    cases ownership.guestFreesArgument <;> simp
  refine ⟨?_, ?_, ?_, ?_, ?_⟩
  · intro address hlive
    rw [heffect.released address hlive]
    simp only [hiff]
  · intro hfrees address hargument
    exact Heap.find?_eq_none_iff.mp (heffect.gone address ((hiff address).mpr ⟨hfrees, hargument⟩))
  · intro address block hfound hnot
    have hkept : freed ≠ some address := fun hsome => hnot ((hiff address).mp hsome)
    obtain ⟨left, hleft, hcapacity, hsame⟩ := heffect.kept address block hfound hkept
    refine ⟨left, hleft, hcapacity, fun hchanged => ?_⟩
    -- a block that is not as it was has been written into
    have hwrite : written = some address := Decidable.not_not.mp fun hne => hchanged (hsame hne)
    exact (hwritten address hwrite).resolve_left hkept
  · intro _ address haddress
    rcases hresult address haddress with hnew | ⟨hargument, hlive⟩
    · exact ⟨(heffect.fresh address hnew).1,
        fun hlive => absurd hlive (heffect.fresh address hnew).2⟩
    · exact ⟨hlive, fun _ => hargument⟩
  · intro address hlive habsent
    exact hmade address (heffect.new address hlive habsent)

/-- The empty string has no block that could be released, wherever it is given to. -/
theorem Effect.give_empty {freed made written : Option Address}
    (heffect : Effect machine after freed made written) (result : Option Place) :
    Effect machine (Entry.give after result .empty) freed made written := by
  cases result with
  | none => exact heffect
  | some place => exact heffect.setString place .empty

/-! ## The calls one by one -/

namespace ExportCall

/-- The call comes back, and it has kept to what is said about its ownership. -/
def KeepsTo (call : ExportCall) (ownership : Ownership) (world : World σ)
    (machine : Machine σ) : Prop :=
  ∃ result? after, call.run world machine = (.ok result?, after) ∧
    Obeys ownership (call.argument? machine) result? machine after

variable {world : World σ} {address : Address} {block : Block} {length : Nat}

/-- A call that gives no block back, and leaves none behind. -/
theorem KeepsTo.of_effect {call : ExportCall} {ownership : Ownership}
    {freed written : Option Address} (hrun : call.run world machine = (.ok none, after))
    (heffect : Effect machine after freed none written)
    (hfreed : freed = if ownership.guestFreesArgument then call.argument? machine else none)
    (hwritten : ∀ address, written = some address → freed = some address) :
    call.KeepsTo ownership world machine :=
  ⟨none, after, hrun, heffect.obeys hfreed nofun
    (fun address hsome => Or.inl (hwritten address hsome)) nofun⟩

/-- A call that gives a new block back. -/
theorem KeepsTo.of_made {call : ExportCall} {ownership : Ownership}
    {freed : Option Address} {out : Address} (hnull : out ≠ 0)
    (hrun : call.run world machine = (.ok (nonNull out), after))
    (heffect : Effect machine after freed (some out) none)
    (hfreed : freed = if ownership.guestFreesArgument then call.argument? machine else none)
    (hframe : ownership.callerFreesResult) : call.KeepsTo ownership world machine := by
  rw [nonNull_of_ne hnull] at hrun
  exact ⟨some out, after, hrun, heffect.obeys hfreed (fun _ hmade => ⟨hframe, hmade⟩) nofun
    fun _ hresult => Or.inl hresult⟩

/-- A call that gives its argument back, which it has written into at most. -/
theorem KeepsTo.of_argument {call : ExportCall} {ownership : Ownership}
    {written : Option Address} (hnull : address ≠ 0)
    (hrun : call.run world machine = (.ok (nonNull address), after))
    (heffect : Effect machine after none none written)
    (hfound : machine.heap.find? address = some block)
    (hargument : call.argument? machine = some address)
    (hkeeps : ownership.guestFreesArgument = false)
    (hwritten : ∀ other, written = some other → ownership = .inPlace ∧ other = address) :
    call.KeepsTo ownership world machine := by
  rw [nonNull_of_ne hnull] at hrun
  obtain ⟨left, hleft, -⟩ := heffect.kept address block hfound nofun
  refine ⟨some address, after, hrun, heffect.obeys (by rw [hkeeps]; rfl) nofun ?_ ?_⟩
  · intro other hother
    obtain ⟨hplace, rfl⟩ := hwritten other hother
    exact Or.inr ⟨hplace, hargument⟩
  · intro other hother
    obtain rfl := Option.some.inj hother
    exact Or.inr ⟨hargument, Heap.mem_live_of_find? hleft⟩

/-- A call that has released its argument and reports why it can do no more. -/
theorem KeepsTo.of_reported {call : ExportCall} {ownership : Ownership} {line : Bytes}
    (hfound : machine.heap.find? address = some block)
    (hrun : call.run world machine =
      (.ok none, (machine.free address block).say world.host line))
    (hargument : call.argument? machine = some address)
    (hfrees : ownership.guestFreesArgument = true) :
    call.KeepsTo ownership world machine :=
  .of_effect hrun (((Effect.refl machine).free hfound block).say world.host line)
    (by rw [hfrees, hargument]; rfl) nofun

/-- A call that releases its argument after it has printed something. -/
theorem KeepsTo.of_printed {call : ExportCall} {ownership : Ownership} {line : Bytes}
    (hfound : machine.heap.find? address = some block)
    (hrun : call.run world machine =
      (.ok none, (machine.say world.host line).free address block))
    (hargument : call.argument? machine = some address)
    (hfrees : ownership.guestFreesArgument = true) :
    call.KeepsTo ownership world machine :=
  .of_effect hrun (((Effect.refl machine).say world.host line).free hfound block)
    (by rw [hfrees, hargument]; rfl) nofun

theorem malloc_keepsTo (size : Int32) :
    (malloc size).KeepsTo .transfersResult world machine := by
  -- a negative size, a refusal of the system, or a block
  cases hsize : Word.toCount? size with
  | none =>
      have hrun : (malloc size).run world machine = (.ok none, machine) := by
        rw [run, Attempt.bind_of_ok (Entry.malloc_run_negative hsize)]
        rfl
      exact .of_effect hrun (.refl machine) rfl nofun
  | some capacity =>
      cases hanswer : world.answer machine capacity with
      | none =>
          have hrun : (malloc size).run world machine = (.ok none, machine.deny capacity) := by
            rw [run, Attempt.bind_of_ok (Entry.malloc_run_denied hsize hanswer)]
            rfl
          exact .of_effect hrun ((Effect.refl machine).deny capacity) rfl nofun
      | some out =>
          obtain ⟨zeros, -, hmalloc⟩ := Entry.malloc_run_granted hsize hanswer
          have hfresh := World.fresh_of_answer hanswer
          have hrun : (malloc size).run world machine =
              (.ok (nonNull out), machine.grant out zeros) := by
            rw [run, Attempt.bind_of_ok hmalloc]
            rfl
          exact .of_made (World.answer_ne_zero hanswer) hrun
            ((Effect.refl machine).grant hfresh hfresh) rfl rfl

theorem free_keepsTo (hnull : address ≠ 0) (hfound : machine.heap.find? address = some block) :
    (free address).KeepsTo .takesArgument world machine := by
  have hrun : (free address).run world machine = (.ok none, machine.free address block) := by
    rw [run, Attempt.bind_of_ok (Entry.free_run (Or.inr ⟨block, hfound⟩)),
      Machine.drop_of_find? hfound hnull]
    rfl
  exact .of_effect hrun ((Effect.refl machine).free hfound block) rfl nofun

theorem helloWorld_keepsTo (hnull : address ≠ 0)
    (hfound : machine.heap.find? address = some block)
    (hzero : block.contents.firstNul? = some length) :
    (helloWorld address).KeepsTo .borrowed world machine := by
  have hentry : Entry.helloWorld address world machine =
      Sample.helloWorld block.contents.untilNul world machine :=
    Entry.helloWorld_run hfound hnull hzero
  cases hanswer : world.answer machine Abi.scratchBufferSize with
  | none =>
      have hdenied := hentry.trans (Sample.helloWorld_run_denied _ hanswer)
      exact .of_effect (by rw [run, Attempt.bind_of_ok hdenied]; rfl)
        ((((Effect.refl machine).say _ _).deny _).say _ _) rfl nofun
  | some out =>
      obtain ⟨zeros, written, -, hgreeting⟩ :=
        Sample.helloWorld_run_granted block.contents.untilNul hanswer
      have hgranted := hentry.trans hgreeting
      have hfresh := World.fresh_of_answer hanswer
      -- the scratch block is granted, written into and released, so nothing is left of it
      exact .of_effect (by rw [run, Attempt.bind_of_ok hgranted]; rfl)
        ((((((Effect.refl machine).say _ _).grant hfresh hfresh).say _ _).patchMade written).say
          _ _ |>.freeMade written) rfl nofun

theorem receiveByteArray_keepsTo (length : Int32) (hnull : address ≠ 0)
    (hfound : machine.heap.find? address = some block) :
    (receiveByteArray address length).KeepsTo .takesArgumentTransfersResult world machine := by
  -- the argument is released in each of the three cases
  by_cases hvalid : ∃ count, Word.toCount? length = some count ∧ count ≤ block.capacity
  · obtain ⟨count, hcount, hfits⟩ := hvalid
    cases hanswer : world.answer machine (Frame.headerSize + count) with
    | none =>
        have hentry := Entry.receiveByteArray_run_denied hfound hnull hcount hfits hanswer
        exact .of_effect (by rw [run, Attempt.bind_of_ok hentry]; rfl)
          ((((Effect.refl machine).deny _).say _ _).free hfound block) rfl nofun
    | some out =>
        obtain ⟨framed, -, hentry⟩ :=
          Entry.receiveByteArray_run_granted hfound hnull hcount hfits hanswer
        have hfresh := World.fresh_of_answer hanswer
        exact .of_made (World.answer_ne_zero hanswer)
          (by rw [run, Attempt.bind_of_ok hentry]; rfl)
          (((Effect.refl machine).grant hfresh hfresh).free hfound block) rfl rfl
  · have hinvalid : ∀ count, Word.toCount? length = some count → block.capacity < count :=
      fun count hcount => Nat.lt_of_not_le fun hfits => hvalid ⟨count, hcount, hfits⟩
    have hentry : Entry.receiveByteArray address length world machine = _ :=
      Entry.receiveByteArray_run_invalid hfound hnull hinvalid
    exact .of_reported hfound (by rw [run, Attempt.bind_of_ok hentry]; rfl) rfl rfl

theorem printUsingHostPrint_keepsTo (hnull : address ≠ 0)
    (hfound : machine.heap.find? address = some block) :
    (printUsingHostPrint address).KeepsTo .takesArgument world machine := by
  cases hzero : block.contents.firstNul? with
  | none =>
      have hentry : Entry.printUsingHostPrint address world machine = _ :=
        Entry.adoptMessage_run_unterminated hfound hnull hzero
      exact .of_reported hfound (by rw [run, Attempt.bind_of_ok hentry]; rfl) rfl rfl
  | some length =>
      have hentry : Entry.printUsingHostPrint address world machine = _ :=
        Entry.printUsingHostPrint_run hfound hnull hzero
      exact .of_printed hfound (by rw [run, Attempt.bind_of_ok hentry]; rfl) rfl rfl

theorem print_keepsTo (hnull : address ≠ 0) (hfound : machine.heap.find? address = some block) :
    (print address).KeepsTo .takesArgument world machine := by
  cases hzero : block.contents.firstNul? with
  | none =>
      have hentry : Entry.print address world machine = _ :=
        Entry.adoptMessage_run_unterminated hfound hnull hzero
      exact .of_reported hfound (by rw [run, Attempt.bind_of_ok hentry]; rfl) rfl rfl
  | some length =>
      have hentry : Entry.print address world machine = _ :=
        Entry.print_run hfound hnull hzero
      exact .of_printed hfound (by rw [run, Attempt.bind_of_ok hentry]; rfl) rfl rfl

/-- The upper-case letters go into a block that is released before the call is over. -/
theorem printUpper_keepsTo (hnull : address ≠ 0)
    (hfound : machine.heap.find? address = some block) :
    (printUpper address).KeepsTo .takesArgument world machine := by
  cases hzero : block.contents.firstNul? with
  | none =>
      have hentry : Entry.printUpper address world machine = _ :=
        Entry.adoptMessage_run_unterminated hfound hnull hzero
      exact .of_reported hfound (by rw [run, Attempt.bind_of_ok hentry]; rfl) rfl rfl
  | some length =>
      cases length with
      | zero =>
          have hentry : Entry.printUpper address world machine = _ :=
            Entry.printUpper_run_empty hfound hnull hzero
          exact .of_printed hfound (by rw [run, Attempt.bind_of_ok hentry]; rfl) rfl rfl
      | succ length =>
          have hfits : length + 1 ≤ block.capacity := Nat.le_of_lt (Block.firstNul?_lt hzero)
          have hentry : Entry.printUpper address world machine = _ :=
            Entry.printUpper_run hfound hnull (Nat.succ_pos _) hfits hzero
          have hpatched : Effect machine
              (machine.patch address (block.upper (length + 1) hfits)) none none (some address) :=
            (Effect.refl machine).patch hfound rfl
          -- the written block is the released one
          exact .of_effect (by rw [run, Attempt.bind_of_ok hentry]; rfl)
            ((hpatched.say _ _).free hfound _) rfl fun _ hwritten => hwritten

theorem echo_keepsTo (hnull : address ≠ 0) (hfound : machine.heap.find? address = some block) :
    (echo address).KeepsTo .transfersResult world machine := by
  have hentry : Entry.echo address world machine = (.ok address, machine) :=
    Entry.echo_run hfound hnull
  exact .of_argument hnull (by rw [run, Attempt.bind_of_ok hentry]; rfl) (.refl machine) hfound
    rfl rfl nofun

theorem toUpper_keepsTo (hnull : address ≠ 0)
    (hfound : machine.heap.find? address = some block)
    (hzero : block.contents.firstNul? = some length) :
    (toUpper address).KeepsTo .inPlace world machine := by
  cases length with
  | zero =>
      have hentry : Entry.toUpper address world machine = (.ok 0, machine) :=
        Entry.toUpper_run_empty hfound hnull hzero
      exact .of_effect (by rw [run, Attempt.bind_of_ok hentry]; rfl) (.refl machine) rfl nofun
  | succ length =>
      have hfits : length + 1 ≤ block.capacity := Nat.le_of_lt (Block.firstNul?_lt hzero)
      have hentry : Entry.toUpper address world machine = _ :=
        Entry.toUpper_run world hfound hnull hfits hzero
      have hpatched : Effect machine
          (machine.patch address (block.upper (length + 1) hfits)) none none (some address) :=
        (Effect.refl machine).patch hfound rfl
      exact .of_argument hnull (by rw [run, Attempt.bind_of_ok hentry]; rfl) hpatched hfound rfl rfl
        fun other hother => ⟨rfl, (Option.some.inj hother).symm⟩

theorem guestStringFree_keepsTo {message : Option Place}
    (hwithin : ∀ place, message = some place → (machine.strings place).Within machine.heap) :
    (guestStringFree message).KeepsTo .takesArgument world machine := by
  cases message with
  | none => exact .of_effect rfl (.refl machine) rfl nofun
  | some place =>
      have hstring := hwithin place rfl
      have hentry : GuestString.free (some place) world machine = _ :=
        GuestString.free_run rfl hstring
      exact .of_effect (by rw [run, Attempt.bind_of_ok hentry]; rfl)
        (((Effect.refl machine).drop hstring.live).setString place _) rfl nofun

/-- What comes back is read off the place of the result. -/
theorem guestEcho_run_of_give {message result : Option Place} {middle : Machine σ}
    {copy : GuestString}
    (hentry : Entry.guestEcho message result world machine =
      (.ok (), Entry.give middle result copy)) :
    (guestEcho message result).run world machine =
      (.ok (result.bind fun _ => nonNull copy.pointer), Entry.give middle result copy) := by
  rw [run, Attempt.bind_of_ok hentry]
  cases result with
  | none => rfl
  | some place =>
      rw [givenAt, Attempt.bind_of_ok (Guest.readString_run place), Entry.give,
        Machine.strings_setString_self]
      rfl

/-- A call that has nothing to give but the empty string. -/
theorem guestEcho_keepsTo_of_empty {message result : Option Place} {middle : Machine σ}
    (hentry : Entry.guestEcho message result world machine =
      (.ok (), Entry.give middle result .empty))
    (heffect : Effect machine middle ((guestEcho message result).argument? machine) none none) :
    (guestEcho message result).KeepsTo .takesArgumentTransfersResult world machine := by
  have hrun : (guestEcho message result).run world machine =
      (.ok none, Entry.give middle result .empty) := by
    rw [guestEcho_run_of_give hentry]
    cases result <;> rfl
  exact .of_effect hrun (heffect.give_empty result) rfl nofun

/-- A copy is given back wherever there is a place for it, and released where there is
none; the string that is copied is released in any case. -/
theorem guestEcho_keepsTo {message : Option Place} (result : Option Place)
    (hwithin : ∀ place, message = some place → (machine.strings place).Within machine.heap) :
    (guestEcho message result).KeepsTo .takesArgumentTransfersResult world machine := by
  cases message with
  | none => exact guestEcho_keepsTo_of_empty Entry.guestEcho_run_none (.refl machine)
  | some place =>
      have hstring := hwithin place rfl
      cases hanswer :
          world.answer machine ((machine.strings place).contents machine.heap).length with
      | none =>
          have hdropped := (((Effect.refl machine).deny
            ((machine.strings place).contents machine.heap).length).say world.host
              (Sample.errorLine Export.guestEcho (.allocationFailed
                ((machine.strings place).contents machine.heap).length))).drop hstring.live
          exact guestEcho_keepsTo_of_empty (Entry.guestEcho_run_denied rfl hstring hanswer)
            (hdropped.setString place .empty)
      | some out =>
          have hfresh := World.fresh_of_answer hanswer
          have hnull := World.answer_ne_zero hanswer
          obtain ⟨copy, -, hentry⟩ := Entry.guestEcho_run_granted result rfl hstring hanswer
          have hgranted : Effect machine (machine.grant out copy) none (some out) none :=
            (Effect.refl machine).grant hfresh hfresh
          have hcopied := (hgranted.drop hstring.live).setString place .empty
          -- without a place for it the copy does not outlive the call
          cases result with
          | none =>
              exact .of_effect (guestEcho_run_of_give hentry) (hcopied.dropMade hnull) rfl nofun
          | some target =>
              exact .of_made hnull (guestEcho_run_of_give hentry) (hcopied.setString target _)
                rfl rfl

end ExportCall

/-! ## The table -/

/-- Every exported function that is said to have an owner for a block is among the
calls. -/
theorem exists_call_of_ownership {spec : ExportSpec} (hspec : spec ∈ Abi.exports)
    (howner : spec.ownership ≠ .none) : ∃ call : ExportCall, call.name = spec.name := by
  -- one call for each name is enough, whatever its arguments
  have hcalls : ∀ spec ∈ Abi.exports, spec.ownership ≠ .none →
      ∃ call ∈ [ExportCall.helloWorld 0, .receiveByteArray 0 0, .printUsingHostPrint 0, .print 0,
        .echo 0, .toUpper 0, .printUpper 0, .guestEcho none none, .guestStringFree none,
        .malloc 0, .free 0], call.name = spec.name := by
    decide
  obtain ⟨call, -, hname⟩ := hcalls spec hspec howner
  exact ⟨call, hname⟩

/-- Whatever the system answers and the host does, a call does with the blocks what the table
says about the function of its name. -/
theorem ExportCall.keepsTo_of_wellFormed {call : ExportCall} {world : World σ}
    {machine : Machine σ} (hwell : call.WellFormed machine) :
    ∃ spec, Abi.findExport call.name = some spec ∧
      call.KeepsTo spec.ownership world machine := by
  cases call with
  | helloWorld message =>
      obtain ⟨hnull, block, length, hfound, hzero⟩ := hwell
      exact ⟨_, rfl, ExportCall.helloWorld_keepsTo hnull hfound hzero⟩
  | receiveByteArray data length =>
      obtain ⟨hnull, block, hfound⟩ := hwell
      exact ⟨_, rfl, ExportCall.receiveByteArray_keepsTo length hnull hfound⟩
  | printUsingHostPrint message =>
      obtain ⟨hnull, block, hfound⟩ := hwell
      exact ⟨_, rfl, ExportCall.printUsingHostPrint_keepsTo hnull hfound⟩
  | print message =>
      obtain ⟨hnull, block, hfound⟩ := hwell
      exact ⟨_, rfl, ExportCall.print_keepsTo hnull hfound⟩
  | echo message =>
      obtain ⟨hnull, block, hfound⟩ := hwell
      exact ⟨_, rfl, ExportCall.echo_keepsTo hnull hfound⟩
  | toUpper message =>
      obtain ⟨hnull, block, length, hfound, hzero⟩ := hwell
      exact ⟨_, rfl, ExportCall.toUpper_keepsTo hnull hfound hzero⟩
  | printUpper message =>
      obtain ⟨hnull, block, hfound⟩ := hwell
      exact ⟨_, rfl, ExportCall.printUpper_keepsTo hnull hfound⟩
  | guestEcho message result =>
      exact ⟨_, rfl, ExportCall.guestEcho_keepsTo result hwell⟩
  | guestStringFree message => exact ⟨_, rfl, ExportCall.guestStringFree_keepsTo hwell⟩
  | malloc size => exact ⟨_, rfl, ExportCall.malloc_keepsTo size⟩
  | free address =>
      obtain ⟨hnull, block, hfound⟩ := hwell
      exact ⟨_, rfl, ExportCall.free_keepsTo hnull hfound⟩

/-- The functions that the table gives an owner for a block are all among the calls; and
whatever the system answers and the host does, a call does with the blocks what the table says
about the function of its name. -/
theorem exports_keep_to_their_ownership (world : World σ) (machine : Machine σ) :
    (∀ spec ∈ Abi.exports, spec.ownership ≠ .none →
      ∃ call : ExportCall, call.name = spec.name) ∧
    ∀ call : ExportCall, call.WellFormed machine →
      ∃ spec, Abi.findExport call.name = some spec ∧
        call.KeepsTo spec.ownership world machine :=
  ⟨fun _ hspec howner => exists_call_of_ownership hspec howner,
    fun _ hwell => ExportCall.keepsTo_of_wellFormed hwell⟩

/-- A message of one letter, the only block of its heap, that is printed in upper case. -/
theorem printUpper_keeps_to_its_ownership :
    let letter : Block := ⟨2, [0x61, 0], 10, rfl, rfl⟩
    let machine : Machine Recording := .start (Heap.empty.insert 8 letter rfl) {}
    let world : World Recording :=
      ⟨SystemAllocator.refusing none, Recording.host 1 0, Recording.rounds 1⟩
    (ExportCall.printUpper 8).WellFormed machine ∧
      ∃ spec, Abi.findExport (ExportCall.printUpper 8).name = some spec ∧
        (ExportCall.printUpper 8).KeepsTo spec.ownership world machine := by
  intro letter machine world
  have hwell : (ExportCall.printUpper 8).WellFormed machine := ⟨by decide, letter, rfl⟩
  exact ⟨hwell, (exports_keep_to_their_ownership world machine).2 _ hwell⟩

end GuestHost

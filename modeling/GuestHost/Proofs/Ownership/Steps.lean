import GuestHost.Proofs.Ownership.Books

/-!
# Every step keeps the books

Step by step, from books in order to books in order, whether the step is answered or
refused.  A step takes something out of a slot, or lends it, has the guest trade it,
and keeps what comes back; so its proof is put together from the trade of the guest's
function and the rules for slots.  There is one lemma for each step that takes more than
one of these, in the order of the sections: the allocator, buffers, texts, strings.
`Step.keepsBooks` puts them together.

Three steps are different.  Two call a function of the host that may panic
(`Step.mayPanic`).  And an echo into another string than its message overwrites what that
string owned: this is the one way to lose a block, and it shows in what is in hand
afterwards (`Step.guestEcho_books`).
-/

namespace GuestHost

open Holding Session

variable {σ α : Type} {refused before : Caller σ → Prop} {rest : List Holding} {name : String}

namespace Session

/-! ## Parts of steps -/

theorem requireRange_meets {offset size : Nat} {patch : Bytes}
    (hrefused : ∀ caller, before caller → refused caller) :
    Meets refused before (requireRange offset patch size)
      fun _ caller => offset + patch.length ≤ size ∧ before caller := by
  unfold requireRange
  split
  · next hfits => exact .pure fun _ hbefore => ⟨hfits, hbefore⟩
  · exact .stop hrefused nofun

theorem sizeAt_meets (address : Address) :
    Meets refused (LendsAt address rest) (sizeAt address) fun size caller =>
      LendsAt address rest caller ∧ (address ≠ 0 → ∃ block,
        caller.machine.heap.find? address = some block ∧ block.capacity = size) := by
  intro world caller hlends
  unfold sizeAt
  split
  · next hnull => exact .inl ⟨0, caller, rfl, hlends, fun hne => absurd hnull hne⟩
  · next hnull =>
      obtain ⟨block, hfound⟩ := hlends.found hnull
      exact .inl ⟨_, _, call_run (Guest.capacityOf_run hfound), hlends,
        fun _ => ⟨block, hfound, rfl⟩⟩

theorem viewBuffer_meets (buffer : OwnedBuffer) :
    Meets refused (Lends name (.buffer buffer) rest) (viewBuffer buffer)
      fun _ => Lends name (.buffer buffer) rest :=
  call_meets_lent <| (OwnedBuffer.capacity_trades buffer).bind fun _ =>
    (OwnedBuffer.bytes_trades buffer).bind fun _ => .pure _ rfl

theorem viewText_meets (text : OwnedCString) :
    Meets refused (Lends name (.cString text) rest) (viewText text)
      fun _ => Lends name (.cString text) rest :=
  call_meets_lent <| (OwnedCString.bytes_trades text).bind fun _ =>
    (OwnedCString.cString_trades text).bind fun _ => .pure _ rfl

theorem viewString_meets (string : GuestString) :
    Meets refused (Lends name (.string string) rest) (viewString string)
      fun _ => Lends name (.string string) rest :=
  call_meets_lent <| (GuestString.bytes_trades string).bind fun _ => .pure _ rfl

/-- What is kept goes from the hand into a slot. -/
theorem keep_meets_books {holding : Holding} {reply : Reply} :
    Meets refused (Books [] (holding :: rest)) (do keep name holding; return reply)
      fun _ => Books [] rest :=
  keep_meets.bind fun _ => .pure fun _ hlends => hlends.books

theorem keepBuffer_meets (name : String) (buffer : OwnedBuffer) :
    Meets refused (Books [] (.buffer buffer :: rest)) (keepBuffer name buffer)
      fun _ => Books [] rest :=
  keep_meets.bind fun _ => (viewBuffer_meets buffer).bind fun _ =>
    .pure fun _ hlends => hlends.books

theorem keepText_meets (name : String) (text : OwnedCString) :
    Meets refused (Books [] (.cString text :: rest)) (keepText name text)
      fun _ => Books [] rest :=
  keep_meets.bind fun _ => (viewText_meets text).bind fun _ =>
    .pure fun _ hlends => hlends.books

theorem keepString_meets (name : String) (string : GuestString) :
    Meets refused (Books [] (.string string :: rest)) (keepString name string)
      fun _ => Books [] rest :=
  keep_meets.bind fun _ => (viewString_meets string).bind fun _ =>
    .pure fun _ hlends => hlends.books

theorem capacityOf_meets_lent {view : GuestString} (hnull : view.pointer ≠ 0) :
    Meets refused (Lends name (.string view) rest) (call (Guest.capacityOf view.pointer))
      fun size caller => Lends name (.string view) rest caller ∧ ∃ block,
        caller.machine.heap.find? view.pointer = some block ∧ block.capacity = size := by
  intro world caller hlends
  obtain ⟨block, hfound, -⟩ := hlends.accounts.within.resolve_left hnull
  exact .inl ⟨_, _, call_run (Guest.capacityOf_run hfound), hlends, block, hfound, rfl⟩

/-- What has become of a lent string is back in its slot. -/
theorem returnString_meets {string : GuestString} :
    Meets refused (Books [some name] (.string string :: rest))
      (returnString (some name) (some string)) fun _ => Lends name (.string string) rest :=
  fun _ _ hbooks => .inl ⟨(), _, rfl, hbooks.put List.not_mem_nil, Slots.lookup_put_self⟩

/-- What has become of a lent string is shown when it is back. -/
theorem returnString_meets_shown {string : GuestString} :
    Meets refused (Books [some name] (.string string :: rest))
      (do
        returnString (some name) (some string)
        return Reply.string (← viewString string) : Session σ Reply)
      fun _ => Books [] rest :=
  returnString_meets.bind fun _ => (viewString_meets string).bind fun _ =>
    .pure fun _ hlends => hlends.books

theorem layOut_run {world : World σ} {caller : Caller σ} {view : GuestString} :
    layOut (some name) (some view) world caller =
      (.ok (some name), { caller with machine := caller.machine.setString name view }) := rfl

theorem layOut_run_none {world : World σ} {caller : Caller σ} :
    layOut none none world caller = (.ok none, caller) := rfl

theorem pickUp_run {world : World σ} {caller : Caller σ} {place : Place} {view : GuestString}
    (hstands : caller.machine.strings place = view) :
    pickUp (some place) world caller = (.ok (some view), caller) := by
  rw [← hstands]
  rfl

theorem pickUp_run_none {world : World σ} {caller : Caller σ} :
    pickUp none world caller = (.ok none, caller) := rfl

/-- A call that needs nothing and gives nothing. -/
theorem call_meets_quiet {computation : Guest σ α} {reply : α → Reply}
    (htrade : Trades [] computation fun _ => []) :
    Meets refused (Books [] rest) (do return reply (← call computation))
      fun _ => Books [] rest :=
  (call_meets htrade).bind fun _ => .pure fun _ hbooks => hbooks

/-- A slot is emptied for a call that takes an address over and gives nothing back. -/
theorem takeRaw_meets_spent {computation : Address → Guest σ α} {reply : α → Reply}
    (htrade : ∀ address, Trades (ofAddress address) (computation address) fun _ => [])
    (slot? : Option String) :
    Meets (Books [] rest) (Books [] rest)
      (do
        let address ← takeRaw slot?
        return reply (← call (computation address)) : Session σ Reply)
      fun _ => Books [] rest :=
  (takeRaw_meets slot?).bind fun address => (call_meets (htrade address)).bind fun _ =>
    .pure fun _ hbooks => hbooks

/-- A slot is emptied for a call that takes a text over and gives nothing back. -/
theorem takeText_meets_spent {computation : OwnedCString → Guest σ α} {reply : α → Reply}
    (htrade : ∀ text, Trades [.cString text] (computation text) fun _ => []) (slot : String) :
    Meets (Books [] rest) (Books [] rest)
      (do
        let text ← takeText slot
        return reply (← call (computation text)) : Session σ Reply)
      fun _ => Books [] rest :=
  (takeText_meets slot).bind fun text => (call_meets (htrade text)).bind fun _ =>
    .pure fun _ hbooks => hbooks

end Session

/-- The step goes from books in order to books in order, answered or refused. -/
def Step.KeepsBooks (σ : Type) (step : Step) : Prop :=
  ∀ rest, Meets (Books [] rest : Caller σ → Prop) (Books [] rest) step.run fun _ => Books [] rest

namespace Step

/-! ## Steps on the allocator -/

theorem malloc_keepsBooks (size : Int32) (into : String) :
    (Step.malloc size into).KeepsBooks σ := by
  refine fun rest => (call_meets (Entry.malloc_trades size)).bind fun address => ?_
  split
  · next hnull =>
      subst hnull
      exact .pure fun _ hbooks => hbooks
  · next hnull =>
      rw [ofAddress_of_ne hnull]
      exact keep_meets_books

theorem allocate_keepsBooks (capacity : Nat) (into : String) :
    (Step.allocate capacity into).KeepsBooks σ := by
  refine fun rest => (request_meets (Guest.allocate_trades capacity)).bind fun address =>
    keep_meets.bind fun _ => ?_
  exact (call_meets_lent (Guest.capacityOf_trades address)).bind fun _ =>
    .pure fun _ hlends => hlends.books

theorem write_keepsBooks (slot? : Option String) (offset : Nat) (patch : Bytes) :
    (Step.write slot? offset patch).KeepsBooks σ := by
  refine fun rest => (lendRaw_meets slot?).bind fun address =>
    (sizeAt_meets address).bind fun size => ?_
  refine (requireRange_meets fun _ hlends => hlends.1.books).bind fun _ => .of_and fun hrange => ?_
  split
  · exact .pure fun _ hlends => hlends.1.books
  -- the size that was asked for is that of the block, so what is in range fits into it
  · next hnull =>
      have hstore : ∀ (world : World σ) (machine : Machine σ) (others : List Holding),
          (∃ block, machine.heap.find? address = some block ∧
            offset + patch.length ≤ block.capacity) →
          Accounts machine (ofAddress address ++ others) →
            ∃ value after, Guest.store address offset patch world machine = (.ok value, after) ∧
              Accounts after (ofAddress address ++ others) := by
        rintro world machine others ⟨block, hfound, hfits⟩ haccounts
        rw [ofAddress_of_ne hnull] at haccounts ⊢
        exact ⟨_, _, Guest.store_run hfound hfits, haccounts.patch _ hfound rfl hnull trivial⟩
      refine ((call_meets_at hstore).weaken ?_).bind fun _ => .pure fun _ hlends => hlends.books
      rintro caller ⟨hlends, hsize⟩
      obtain ⟨block, hfound, hcapacity⟩ := hsize hnull
      exact ⟨hlends, block, hfound, hcapacity ▸ hrange⟩

theorem read_keepsBooks (slot? : Option String) : (Step.read slot?).KeepsBooks σ := by
  refine fun rest => (lendRaw_meets slot?).bind fun address => ?_
  split
  · exact .pure fun _ hlends => hlends.books
  · next hnull =>
      intro world caller hlends
      obtain ⟨block, hfound⟩ := hlends.found hnull
      rw [Attempt.bind_of_ok (call_run (Guest.load_run hfound))]
      exact .inl ⟨_, _, rfl, hlends.books⟩

/-! ## Steps on buffers -/

theorem bufferAdopt_keepsBooks (slot? : Option String) (into : String) :
    (Step.bufferAdopt slot? into).KeepsBooks σ :=
  fun _ => (takeRaw_meets slot?).bind fun address =>
    (request_meets (OwnedBuffer.adopt_trades address)).bind (keepBuffer_meets into)

theorem bufferTruncate_keepsBooks (slot : String) (length : Int32) :
    (Step.bufferTruncate slot length).KeepsBooks σ :=
  fun _ => (takeBuffer_meets slot).bind fun buffer =>
    (request_meets (OwnedBuffer.truncate_trades buffer length)).bind (keepBuffer_meets slot)

theorem bufferView_keepsBooks (slot : String) : (Step.bufferView slot).KeepsBooks σ :=
  fun _ => (lendBuffer_meets slot).bind fun buffer => (viewBuffer_meets buffer).bind fun _ =>
    .pure fun _ hlends => hlends.books

theorem bufferWrite_keepsBooks (slot : String) (offset : Nat) (patch : Bytes) :
    (Step.bufferWrite slot offset patch).KeepsBooks σ := by
  refine fun rest => (lendBuffer_meets slot).bind fun buffer =>
    (requireRange_meets fun _ hlends => hlends.books).bind fun _ => .of_and fun hrange => ?_
  exact (call_meets_lent (OwnedBuffer.write_trades hrange)).bind fun _ =>
    .pure fun _ hlends => hlends.books

theorem bufferToRaw_keepsBooks (slot into : String) :
    (Step.bufferToRaw slot into).KeepsBooks σ :=
  fun _ => (takeBuffer_meets slot).bind fun _ => keep_meets_books.weaken fun _ hbooks =>
    ⟨hbooks.distinct, hbooks.accounts.toRaw nofun⟩

/-- The string has the length of the buffer, which is all that the block has to have. -/
theorem bufferToString_keepsBooks (slot into : String) :
    (Step.bufferToString slot into).KeepsBooks σ := by
  refine fun rest => (takeBuffer_meets slot).bind fun buffer =>
    (keepString_meets into _).weaken fun caller hbooks => ⟨hbooks.distinct, ?_⟩
  obtain ⟨block, hfound, hnull, hlength⟩ := hbooks.accounts.owned nofun
  exact hbooks.accounts.exchange _ rfl (.block block hfound hnull hlength)

theorem frameBuffer_keepsBooks (slot into : String) :
    (Step.frameBuffer slot into).KeepsBooks σ := by
  refine fun rest => (takeBuffer_meets slot).bind fun buffer =>
    (call_meets (Sample.receiveByteArray_trades buffer)).bind fun framed => ?_
  cases framed with
  | none => exact .pure fun _ hbooks => hbooks
  | some framed => exact keepBuffer_meets into framed

theorem echoBuffer_keepsBooks (slot into : String) : (Step.echoBuffer slot into).KeepsBooks σ :=
  fun _ => (takeBuffer_meets slot).bind fun buffer => keep_meets.bind fun _ =>
    (viewBuffer_meets buffer).bind fun _ => .pure fun _ hlends => hlends.books

/-! ## Steps on texts -/

theorem textAdopt_keepsBooks (slot? : Option String) (into : String) :
    (Step.textAdopt slot? into).KeepsBooks σ :=
  fun _ => (takeRaw_meets slot?).bind fun address =>
    (request_meets (OwnedCString.adopt_trades address)).bind (keepText_meets into)

theorem textView_keepsBooks (slot : String) : (Step.textView slot).KeepsBooks σ :=
  fun _ => (lendText_meets slot).bind fun text => (viewText_meets text).bind fun _ =>
    .pure fun _ hlends => hlends.books

theorem textWrite_keepsBooks (slot : String) (offset : Nat) (patch : Bytes) :
    (Step.textWrite slot offset patch).KeepsBooks σ := by
  refine fun rest => (lendText_meets slot).bind fun text =>
    (requireRange_meets fun _ hlends => hlends.books).bind fun _ => .of_and fun hrange => ?_
  exact (call_meets_lent (OwnedCString.write_trades hrange)).bind fun _ =>
    .pure fun _ hlends => hlends.books

theorem textToRaw_keepsBooks (slot into : String) : (Step.textToRaw slot into).KeepsBooks σ :=
  fun _ => (takeText_meets slot).bind fun _ => keep_meets_books.weaken fun _ hbooks =>
    ⟨hbooks.distinct, hbooks.accounts.toRaw nofun⟩

theorem greet_keepsBooks (slot : String) : (Step.greet slot).KeepsBooks σ := by
  refine fun rest => (lendText_meets slot).bind fun text => Meets.bind (call_meets_lent ?_)
    fun _ => .pure fun _ hlends => hlends.books
  exact (OwnedCString.cString_trades text).bind fun bytes =>
    (Sample.helloWorld_trades bytes).frame [.cString text]

/-! ## Steps that lend a C string -/

theorem lentBytes_keepsBooks (slot? : Option String) : (Step.lentBytes slot?).KeepsBooks σ := by
  refine fun rest => (lendCString_meets slot?).bind fun address =>
    Meets.bind (call_meets_text ?_) ?_
  · intro world machine others hlent haccounts
    obtain ⟨bytes, hrun⟩ := lentBytes_lent world hlent
    exact ⟨bytes, machine, hrun, haccounts⟩
  · intro bytes
    cases bytes with
    | none => exact .pure fun _ hlends => hlends.books
    | some bytes => exact .pure fun _ hlends => hlends.books

theorem helloWorld_keepsBooks (slot? : Option String) : (Step.helloWorld slot?).KeepsBooks σ := by
  refine fun rest => (lendCString_meets slot?).bind fun address => Meets.bind (call_meets_text ?_)
    fun _ => .pure fun _ hlends => hlends.books
  exact fun world machine others hlent haccounts => Entry.helloWorld_lent hlent haccounts

theorem toUpper_keepsBooks (slot? : Option String) : (Step.toUpper slot?).KeepsBooks σ := by
  refine fun rest => (lendCString_meets slot?).bind fun address => Meets.bind (call_meets_text ?_)
    fun _ => .pure fun _ hlends => hlends.books
  exact fun world machine others hlent haccounts => Entry.toUpper_lent hlent haccounts

/-! ## Steps on strings by pointer and length -/

theorem stringView_keepsBooks (slot? : Option String) : (Step.stringView slot?).KeepsBooks σ := by
  intro rest
  cases slot? with
  | none => exact .pure fun _ hbooks => hbooks
  | some name =>
      refine (lendString_meets_some name).bind fun string => ?_
      cases string with
      | none => exact .of_false
      | some view => exact (viewString_meets view).bind fun _ => .pure fun _ hlends => hlends.books

/-- A length that is within the capacity may be written into a string. -/
theorem stringSetLength_keepsBooks (slot? : Option String) (length : Nat) :
    (Step.stringSetLength slot? length).KeepsBooks σ := by
  intro rest
  cases slot? with
  | none => exact .pure fun _ hbooks => hbooks
  | some name =>
      refine (lendString_meets_some name).bind fun string => ?_
      cases string with
      | none => exact .of_false
      | some view =>
          -- what follows once the new length is known to describe the block, if there is one
          have hreturn : Meets (Books [] rest)
              (fun caller => Lends name (.string view) rest caller ∧
                (Holding.string ⟨view.pointer, length⟩).Fits caller.machine.heap)
              (do
                returnString (some name) (some ⟨view.pointer, length⟩)
                return Reply.string (← viewString ⟨view.pointer, length⟩) : Session σ Reply)
              fun _ => Books [] rest := by
            refine returnString_meets_shown.weaken ?_
            rintro caller ⟨hlends, hfits⟩
            exact ⟨hlends.books.distinct, hlends.openSlot.accounts.exchange _ rfl hfits⟩
          simp only [Option.elim_some]
          by_cases hnull : view.pointer = 0
          · rw [if_neg (not_not_intro hnull)]
            refine hreturn.weaken fun caller hlends => ⟨hlends, ?_⟩
            rw [hnull]
            exact .null length
          · rw [if_pos hnull]
            refine (capacityOf_meets_lent hnull).bind fun size =>
              (requireRange_meets fun _ hlends => hlends.1.books).bind fun _ => hreturn.weaken ?_
            rintro caller ⟨hfits, hlends, block, hfound, rfl⟩
            exact ⟨hlends, .block block hfound hnull hfits⟩

/-- For the time of the call the string stands at the place of its slot. -/
theorem stringFree_keepsBooks (slot? : Option String) : (Step.stringFree slot?).KeepsBooks σ := by
  intro rest
  cases slot? with
  | none => exact .pure fun _ hbooks => hbooks
  | some name =>
      refine (lendString_meets_some name).bind fun string => ?_
      cases string with
      | none => exact .of_false
      | some view =>
          intro world caller hlends
          -- the slot is open while its string stands at the place
          have hlaid := hlends.accounts.setString name view
          have hfree : GuestString.free (some name) world (caller.machine.setString name view) =
              (.ok (), _) :=
            GuestString.free_run (Machine.strings_setString_self ..) hlaid.within
          have hfreed := (hlaid.drop.addNull 0).setString name .empty
          rw [Attempt.bind_of_ok layOut_run, Attempt.bind_of_ok (call_run hfree),
            Attempt.bind_of_ok (pickUp_run (Machine.strings_setString_self ..))]
          exact returnString_meets_shown world ⟨hlends.books.distinct, hfreed⟩

/-- The copy is kept, and the empty string is left in the place of the message. -/
theorem echoString_keepsBooks (message? : Option String) (into : String) :
    (Step.echoString message? into).KeepsBooks σ := by
  intro rest
  cases message? with
  | none =>
      intro world caller hbooks
      exact keepString_meets into GuestString.empty world (hbooks.addNull 0)
  | some name =>
      refine (lendString_meets_some name).bind fun string => ?_
      cases string with
      | none => exact .of_false
      | some view =>
          intro world caller hlends
          obtain ⟨copy, machine, hecho, -, haccounts⟩ := Sample.echoString_accounts world
            (Machine.strings_setString_self caller.machine name view)
            (hlends.accounts.setString name view)
          -- the empty string in the place owns the null pointer, which is no block
          have hleft := (haccounts.addNull 0).setString name .empty
          rw [Attempt.bind_of_ok layOut_run, Attempt.bind_of_ok (call_run hecho),
            Attempt.bind_of_ok (pickUp_run (Machine.strings_setString_self ..))]
          have hreturn : Meets (Books [] rest)
              (Books [some name] (.string .empty :: .string copy :: rest))
              (do
                returnString (some name) (some GuestString.empty)
                keepString into copy : Session σ Reply)
              fun _ => Books [] rest :=
            returnString_meets.bind fun _ =>
              (keepString_meets into copy).weaken fun _ hlends => hlends.books
          exact hreturn world ⟨hlends.books.distinct, hleft⟩

/-! ## Steps that take an address and may give one back -/

theorem receiveByteArray_keepsBooks (slot? : Option String) (length : Int32) (into : String) :
    (Step.receiveByteArray slot? length into).KeepsBooks σ := by
  refine fun rest => (takeRaw_meets slot?).bind fun data =>
    (call_meets (Entry.receiveByteArray_trades data length)).bind fun address => ?_
  split
  · next hnull =>
      subst hnull
      exact .pure fun _ hbooks => hbooks
  · next hnull =>
      rw [ofAddress_of_ne hnull]
      exact keep_meets.bind fun _ => (call_meets_lent (Guest.load_trades address)).bind fun _ =>
        .pure fun _ hlends => hlends.books

theorem echo_keepsBooks (slot? : Option String) (into : String) :
    (Step.echo slot? into).KeepsBooks σ := by
  refine fun rest => (takeRaw_meets slot?).bind fun address =>
    (call_meets (Entry.echo_trades address)).bind fun answer => ?_
  split
  · next hnull =>
      rw [ofAddress_of_ne hnull]
      exact keep_meets_books
  · next hnull =>
      rw [Decidable.not_not.mp hnull]
      exact .pure fun _ hbooks => hbooks

/-! ## Echoing between slots -/

theorem viewString?_run (world : World σ) {caller : Caller σ} {string : Option GuestString}
    (hwithin : ∀ view ∈ string, view.Within caller.machine.heap) :
    ∃ shown, viewString? string world caller = (.ok shown, caller) := by
  cases string with
  | none => exact ⟨none, rfl⟩
  | some view =>
      have hbytes : view.bytes world caller.machine = (.ok _, caller.machine) :=
        GuestString.bytes_run (hwithin view rfl)
      have hview : viewString view world caller = (.ok _, caller) :=
        call_run (by rw [Attempt.bind_of_ok hbytes]; rfl)
      exact ⟨_, by rw [viewString?, Attempt.bind_of_ok hview]; rfl⟩

/-- What an echo overwrites: the string in the destination, unless that is the message. -/
def overwritten (slots : Slots) : Step → List Address
  | .guestEcho message? (some result) =>
    if message? = some result then []
    else (slots.lookup result).elim [] Holding.addresses
  | _ => []

/-- The end of an echo, when both strings are in their slots. -/
theorem echoed_run {world : World σ} {caller : Caller σ} {left result : Option GuestString}
    {fresh : Bool} (hleft : ∀ view ∈ left, view.Within caller.machine.heap)
    (hresult : ∀ view ∈ result, view.Within caller.machine.heap) :
    ∃ reply, (do return Reply.echoed (← viewString? left) (← viewString? result) fresh :
      Session σ Reply) world caller = (.ok reply, caller) := by
  obtain ⟨first, hfirst⟩ := viewString?_run world hleft
  obtain ⟨second, hsecond⟩ := viewString?_run world hresult
  exact ⟨_, by rw [Attempt.bind_of_ok hfirst, Attempt.bind_of_ok hsecond]; rfl⟩

theorem lendString_run {world : World σ} {caller : Caller σ} {view : GuestString}
    (hfound : caller.slots.lookup name = some (.string view)) :
    lendString (some name) world caller = (.ok (some view), caller) := by
  rw [lendString, Attempt.bind_of_ok find?_run, hfound]
  rfl

/-- A string is lent, or nothing is asked for, or the slot is of no use. -/
theorem lendString_cases (slot? : Option String) (world : World σ) (caller : Caller σ) :
    slot? = none ∨ (∃ slot view, slot? = some slot ∧
      caller.slots.lookup slot = some (.string view)) ∨
    ∃ slot, lendString slot? world caller = (.error (.badSlot slot), caller) := by
  cases slot? with
  | none => exact .inl rfl
  | some slot =>
      right
      rw [lendString, Attempt.bind_of_ok find?_run]
      cases hfound : caller.slots.lookup slot with
      | none => exact .inr ⟨slot, rfl⟩
      | some holding =>
          cases holding with
          | string view => exact .inl ⟨slot, view, rfl, hfound⟩
          | raw | buffer | cString => exact .inr ⟨slot, rfl⟩

theorem lendString_run_none {world : World σ} {caller : Caller σ} :
    lendString none world caller = (.ok none, caller) := rfl

theorem returnString_run_none {world : World σ} {caller : Caller σ} {string : Option GuestString} :
    returnString none string world caller = (.ok (), caller) := rfl

theorem returnString_run {world : World σ} {caller : Caller σ} {view : GuestString} :
    returnString (some name) (some view) world caller =
      (.ok (), { caller with slots := caller.slots.put name (.string view) }) := rfl

section Echo

variable {world : World σ} {caller : Caller σ} {message result : String} {view old : GuestString}

/-- The message goes into another slot, and what was there is lost. -/
theorem guestEcho_run_over (hbooks : Books [] rest caller) (hapart : message ≠ result)
    (hmessage : caller.slots.lookup message = some (.string view))
    (hresult : caller.slots.lookup result = some (.string old)) :
    ∃ after, (∃ reply, (Step.guestEcho (some message) (some result)).run world caller =
        (.ok reply, after)) ∧ Books [] (ofAddress old.pointer ++ rest) after := by
  have hopened :=
    (hbooks.openSlot hresult List.not_mem_nil).openSlot hmessage (by simpa using hapart)
  have hlaid := (hopened.setString message view).setString result old
  have hstands : ((caller.machine.setString message view).setString result old).strings message =
      view := by
    rw [Machine.strings_setString_of_ne hapart, Machine.strings_setString_self]
  obtain ⟨copy, machine, hrun, hdelivers, haccounts⟩ :=
    Entry.guestEcho_accounts world hstands hlaid.accounts (some result)
  have hleft : machine.strings message = .empty :=
    hdelivers.emptied message rfl fun heq => hapart (Option.some.inj heq).symm
  have hgiven : machine.strings result = copy := hdelivers.given result rfl
  have hcopied : Books [some message, some result] (.string copy :: .string old :: rest)
      { caller with machine } := ⟨hbooks.distinct, haccounts⟩
  -- nobody has the old string any more, so its block stays in hand for good
  have hlost := (hcopied.hand_perm (List.Perm.swap ..)).toAddress.hand_perm List.perm_middle
  have hreturned := ((hlost.addNull 0).put (by simpa using hapart)).put List.not_mem_nil
  have hlends : Lends result (.string copy) (ofAddress old.pointer ++ rest) _ :=
    ⟨hreturned, Slots.lookup_put_self⟩
  refine ⟨_, ?_, hreturned⟩
  rw [Step.run, Attempt.bind_of_ok (lendString_run hmessage),
    Attempt.bind_of_ok (lendString_run hresult), Attempt.bind_of_ok layOut_run,
    Attempt.bind_of_ok layOut_run, Attempt.bind_of_ok (call_run hrun),
    Attempt.bind_of_ok (pickUp_run hleft), Attempt.bind_of_ok (pickUp_run hgiven),
    Attempt.bind_of_ok returnString_run, Attempt.bind_of_ok returnString_run]
  exact echoed_run (fun _ hview => Option.some.inj hview ▸ .inl rfl)
    fun _ hview => Option.some.inj hview ▸ hlends.accounts.within

/-- The copy takes the place of the message: that is written after the message was freed. -/
theorem guestEcho_run_inPlace (hbooks : Books [] rest caller)
    (hmessage : caller.slots.lookup message = some (.string view)) :
    ∃ after, (∃ reply, (Step.guestEcho (some message) (some message)).run world caller =
        (.ok reply, after)) ∧ Books [] rest after := by
  have hopened := hbooks.openSlot hmessage List.not_mem_nil
  have hlaid := (hopened.setString message view).setString message view
  obtain ⟨copy, machine, hrun, hdelivers, haccounts⟩ :=
    Entry.guestEcho_accounts world (Machine.strings_setString_self ..) hlaid.accounts
      (some message)
  have hgiven : machine.strings message = copy := hdelivers.given message rfl
  have hcopied : Books [some message] (.string copy :: rest) { caller with machine } :=
    ⟨hbooks.distinct, haccounts⟩
  -- the copy is put into the slot twice, for the message and for the result
  have hreturned := (hcopied.putOpen List.mem_cons_self (.string copy)).put List.not_mem_nil
  have hlends : Lends message (.string copy) rest _ := ⟨hreturned, Slots.lookup_put_self⟩
  refine ⟨_, ?_, hreturned⟩
  rw [Step.run, Attempt.bind_of_ok (lendString_run hmessage),
    Attempt.bind_of_ok (lendString_run hmessage), Attempt.bind_of_ok layOut_run,
    Attempt.bind_of_ok layOut_run, Attempt.bind_of_ok (call_run hrun),
    Attempt.bind_of_ok (pickUp_run hgiven), Attempt.bind_of_ok (pickUp_run hgiven),
    Attempt.bind_of_ok returnString_run, Attempt.bind_of_ok returnString_run]
  exact echoed_run (fun _ hview => Option.some.inj hview ▸ hlends.accounts.within)
    fun _ hview => Option.some.inj hview ▸ hlends.accounts.within

/-- The copy is released when it has nowhere to go. -/
theorem guestEcho_run_nowhere (hbooks : Books [] rest caller)
    (hmessage : caller.slots.lookup message = some (.string view)) :
    ∃ after, (∃ reply, (Step.guestEcho (some message) none).run world caller =
        (.ok reply, after)) ∧ Books [] rest after := by
  have hopened := hbooks.openSlot hmessage List.not_mem_nil
  have hlaid := hopened.setString message view
  obtain ⟨copy, machine, hrun, hdelivers, haccounts⟩ :=
    Entry.guestEcho_accounts world (Machine.strings_setString_self ..) hlaid.accounts none
  have hleft : machine.strings message = .empty := hdelivers.emptied message rfl nofun
  have hcopied : Books [some message] rest { caller with machine } := ⟨hbooks.distinct, haccounts⟩
  refine ⟨_, ?_, (hcopied.addNull 0).put List.not_mem_nil⟩
  rw [Step.run, Attempt.bind_of_ok (lendString_run hmessage),
    Attempt.bind_of_ok lendString_run_none, Attempt.bind_of_ok layOut_run,
    Attempt.bind_of_ok layOut_run_none, Attempt.bind_of_ok (call_run hrun),
    Attempt.bind_of_ok (pickUp_run hleft), Attempt.bind_of_ok pickUp_run_none,
    Attempt.bind_of_ok returnString_run, Attempt.bind_of_ok returnString_run_none]
  exact echoed_run (fun _ hview => Option.some.inj hview ▸ .inl rfl) nofun

/-- Without a message the empty string goes into the slot of the result. -/
theorem guestEcho_run_none (hbooks : Books [] rest caller)
    (hresult : caller.slots.lookup result = some (.string old)) :
    ∃ after, (∃ reply, (Step.guestEcho none (some result)).run world caller =
        (.ok reply, after)) ∧ Books [] (ofAddress old.pointer ++ rest) after := by
  have hopened := hbooks.openSlot hresult List.not_mem_nil
  have hgiven := (hopened.setString result old).setString result .empty
  have hreturned := (hgiven.toAddress.addNull 0).put List.not_mem_nil
  refine ⟨_, ?_, hreturned⟩
  rw [Step.run, Attempt.bind_of_ok lendString_run_none,
    Attempt.bind_of_ok (lendString_run hresult), Attempt.bind_of_ok layOut_run_none,
    Attempt.bind_of_ok layOut_run, Attempt.bind_of_ok (call_run Entry.guestEcho_run_none),
    Attempt.bind_of_ok pickUp_run_none,
    Attempt.bind_of_ok (pickUp_run (Machine.strings_setString_self ..)),
    Attempt.bind_of_ok returnString_run_none, Attempt.bind_of_ok returnString_run]
  exact echoed_run nofun fun _ hview => Option.some.inj hview ▸ .inl rfl

/-- An echo is answered, and what it overwrites is lost; or it is refused because of a
slot, and nothing has happened. -/
theorem guestEcho_books (world : World σ) (hbooks : Books [] rest caller)
    (message? result? : Option String) :
    (∃ after, (∃ reply, (Step.guestEcho message? result?).run world caller = (.ok reply, after)) ∧
      Books [] ((overwritten caller.slots (.guestEcho message? result?)).map .raw ++ rest) after) ∨
    ∃ slot, (Step.guestEcho message? result?).run world caller =
      (.error (.badSlot slot), caller) := by
  rcases lendString_cases message? world caller with
    rfl | ⟨message, view, rfl, hmessage⟩ | ⟨slot, hrefused⟩
  · rcases lendString_cases result? world caller with
      rfl | ⟨result, old, rfl, hresult⟩ | ⟨slot, hrefused⟩
    · exact .inl ⟨caller, ⟨_, rfl⟩, hbooks⟩
    · have hlost : overwritten caller.slots (.guestEcho none (some result)) =
          (Holding.string old).addresses := by
        rw [overwritten, if_neg nofun, hresult, Option.elim_some]
      rw [hlost, ← ofAddress_address]
      exact .inl (guestEcho_run_none hbooks hresult)
    · exact .inr ⟨slot, by
        rw [Step.run, Attempt.bind_of_ok lendString_run_none, Attempt.bind_of_error hrefused]⟩
  · rcases lendString_cases result? world caller with
      rfl | ⟨result, old, rfl, hresult⟩ | ⟨slot, hrefused⟩
    · exact .inl (guestEcho_run_nowhere hbooks hmessage)
    · by_cases hsame : message = result
      -- a copy that goes to the place of the message overwrites the empty string only
      · subst hsame
        have hlost : overwritten caller.slots (.guestEcho (some message) (some message)) = [] :=
          if_pos rfl
        rw [hlost]
        exact .inl (guestEcho_run_inPlace hbooks hmessage)
      · have hlost : overwritten caller.slots (.guestEcho (some message) (some result)) =
            (Holding.string old).addresses := by
          rw [overwritten, if_neg (by simpa using hsame), hresult, Option.elim_some]
        rw [hlost, ← ofAddress_address]
        exact .inl (guestEcho_run_over hbooks hsame hmessage hresult)
    · exact .inr ⟨slot, by
        rw [Step.run, Attempt.bind_of_ok (lendString_run hmessage), Attempt.bind_of_error hrefused]⟩
  · exact .inr ⟨slot, by rw [Step.run, Attempt.bind_of_error hrefused]⟩

end Echo

/-! ## All steps -/

/-- The steps that call a function of the host that may panic. -/
def mayPanic : Step → Bool
  | .callHostFunction _ | .keepBusy _ => true
  | _ => false

/-- Every other step keeps the books; the lemmas above are put together. -/
theorem keepsBooks (step : Step) (hecho : ∀ message? result?, step ≠ .guestEcho message? result?)
    (hpanic : step.mayPanic = false) : step.KeepsBooks σ := by
  intro rest
  cases step with
  | guestEcho message? result? => exact absurd rfl (hecho message? result?)
  | callHostFunction argument => cases hpanic
  | keepBusy ms => cases hpanic
  -- the allocator
  | malloc size into => exact malloc_keepsBooks size into rest
  | allocate capacity into => exact allocate_keepsBooks capacity into rest
  | free slot? => exact takeRaw_meets_spent Entry.free_trades slot?
  | write slot? offset patch => exact write_keepsBooks slot? offset patch rest
  | read slot? => exact read_keepsBooks slot? rest
  | drop slot => exact drop_meets.bind fun _ => .pure fun _ hbooks => hbooks.1
  -- buffers
  | bufferAllocate length into =>
      exact (request_meets (OwnedBuffer.allocate_trades length)).bind (keepBuffer_meets into)
  | bufferOfBytes bytes into =>
      exact (request_meets (OwnedBuffer.ofBytes_trades bytes)).bind (keepBuffer_meets into)
  | bufferFramed payload into =>
      exact (request_meets (OwnedBuffer.framed_trades payload)).bind (keepBuffer_meets into)
  | bufferAdopt slot? into => exact bufferAdopt_keepsBooks slot? into rest
  | bufferTruncate slot length => exact bufferTruncate_keepsBooks slot length rest
  | bufferView slot => exact bufferView_keepsBooks slot rest
  | bufferWrite slot offset patch => exact bufferWrite_keepsBooks slot offset patch rest
  | bufferToRaw slot into => exact bufferToRaw_keepsBooks slot into rest
  | bufferToString slot into => exact bufferToString_keepsBooks slot into rest
  | frameBuffer slot into => exact frameBuffer_keepsBooks slot into rest
  | echoBuffer slot into => exact echoBuffer_keepsBooks slot into rest
  -- texts
  | textOfBytes bytes into =>
      exact (request_meets (OwnedCString.ofBytes_trades bytes)).bind (keepText_meets into)
  | textAdopt slot? into => exact textAdopt_keepsBooks slot? into rest
  | textView slot => exact textView_keepsBooks slot rest
  | textWrite slot offset patch => exact textWrite_keepsBooks slot offset patch rest
  | textToRaw slot into => exact textToRaw_keepsBooks slot into rest
  | greet slot => exact greet_keepsBooks slot rest
  | printTextUsingHostPrint slot =>
      exact takeText_meets_spent Sample.printUsingHostPrint_trades slot
  | printText slot => exact takeText_meets_spent Sample.print_trades slot
  | printTextUpper slot => exact takeText_meets_spent Sample.printUpper_trades slot
  -- strings by pointer and length
  | stringNew length into =>
      exact (keepString_meets into _).weaken fun _ hbooks => hbooks.addNull length
  | stringSetLength slot? length => exact stringSetLength_keepsBooks slot? length rest
  | stringView slot? => exact stringView_keepsBooks slot? rest
  | stringFree slot? => exact stringFree_keepsBooks slot? rest
  | echoString message? into => exact echoString_keepsBooks message? into rest
  -- exported functions that are lent an address, or take one over
  | lentBytes slot? => exact lentBytes_keepsBooks slot? rest
  | helloWorld slot? => exact helloWorld_keepsBooks slot? rest
  | toUpper slot? => exact toUpper_keepsBooks slot? rest
  | receiveByteArray slot? length into => exact receiveByteArray_keepsBooks slot? length into rest
  | printUsingHostPrint slot? =>
      exact takeRaw_meets_spent Entry.printUsingHostPrint_trades slot?
  | print slot? => exact takeRaw_meets_spent Entry.print_trades slot?
  | printUpper slot? => exact takeRaw_meets_spent Entry.printUpper_trades slot?
  | echo slot? into => exact echo_keepsBooks slot? into rest
  -- calls that no slot takes part in
  | hello => exact call_meets_quiet Sample.hello_trades
  | printHelloWorld => exact call_meets_quiet Sample.printHelloWorld_trades
  | passBuffer => exact call_meets_quiet Sample.passBuffer_trades
  | plainHelloWorld => exact call_meets_quiet Sample.plainHelloWorld_trades
  | calcFib n => exact .pure fun _ hbooks => hbooks
  | say message => exact call_meets_quiet (Guest.printText_trades message)
  | log level message => exact call_meets_quiet (Guest.log_trades level message)

end Step

end GuestHost

import GuestHost.Proofs.Ownership.Samples
import GuestHost.Proofs.Ownership.Slots
import GuestHost.Session.Steps

/-!
# A caller's books

A caller's *books* (`Books`) say who owns the blocks of its guest: its slots, and whoever
has something in hand, that is, what has been taken out of a slot or has come back from
the guest and is not in a slot yet.  What is lost to everybody counts as being in
hand for good.

`Meets` is the specification of a caller's computation: from a state it ends with a
value and a state that goes with it, or it refuses.  Where it refuses the books have
to be in order too, and a refusal never stands for a guest that stopped.  A call of the
guest meets it if the guest's computation is a trade (`call_meets`, `request_meets`,
`call_meets_lent`); what stands in slots is taken (`takeRaw_meets` and the like), lent
(`lendRaw_meets`), kept (`keep_meets`) and dropped (`drop_meets`).
-/

namespace GuestHost

variable {σ α β : Type}

/-- Every live block is owned by one holding, either in hand or in a slot that is not
open. -/
structure Books (opened : List (Option String)) (hand : List Holding) (caller : Caller σ) :
    Prop where
  distinct : caller.slots.Distinct
  accounts : Accounts caller.machine (hand ++ caller.slots.held opened)

/-- The books are in order, and a slot holds something that is to be lent. -/
structure Lends (name : String) (holding : Holding) (rest : List Holding) (caller : Caller σ) :
    Prop where
  books : Books [] rest caller
  found : caller.slots.lookup name = some holding

/-- The books are in order, and an address that is to be lent is null or in some slot. -/
structure LendsAt (address : Address) (rest : List Holding) (caller : Caller σ) : Prop where
  books : Books [] rest caller
  held : address = 0 ∨ ∃ name, caller.slots.lookup name = some (.raw address)

/-- From a state `before` the computation ends with a value and a state `after`, or is
refused in a state `refused`. -/
def Meets (refused before : Caller σ → Prop) (computation : Session σ α)
    (after : α → Caller σ → Prop) : Prop :=
  ∀ (world : World σ) ⦃caller : Caller σ⦄, before caller →
    (∃ value left, computation world caller = (.ok value, left) ∧ after value left) ∨
      ∃ refusal left, computation world caller = (.error refusal, left) ∧ refused left ∧
        ∀ cause, refusal ≠ .stopped cause

namespace Meets

variable {refused before between : Caller σ → Prop} {after : α → Caller σ → Prop}
  {computation : Session σ α}

/-! ## Rules -/

theorem pure {value : α} (hafter : ∀ caller, before caller → after value caller) :
    Meets refused before (Pure.pure value : Session σ α) after :=
  fun _ caller hbefore => .inl ⟨value, caller, rfl, hafter caller hbefore⟩

theorem stop {refusal : Refusal} (hrefused : ∀ caller, before caller → refused caller)
    (hrefusal : ∀ cause, refusal ≠ .stopped cause) :
    Meets refused before (Attempt.stop refusal : Session σ α) after :=
  fun _ caller hbefore => .inr ⟨refusal, caller, rfl, hrefused caller hbefore, hrefusal⟩

theorem of_and {fact : Prop} (hmeets : fact → Meets refused before computation after) :
    Meets refused (fun caller => fact ∧ before caller) computation after :=
  fun world _ h => hmeets h.1 world h.2

theorem of_false : Meets refused (fun _ => False) computation after :=
  fun _ _ hfalse => hfalse.elim

theorem bind {middle : α → Caller σ → Prop} {next : α → Session σ β}
    {last : β → Caller σ → Prop} (hfirst : Meets refused before computation middle)
    (hnext : ∀ value, Meets refused (middle value) (next value) last) :
    Meets refused before (computation >>= next) last := by
  intro world caller hbefore
  rcases hfirst world hbefore with ⟨value, left, hrun, hmiddle⟩ |
      ⟨refusal, left, hrun, hrefused, hcause⟩
  · rw [Attempt.bind_of_ok hrun]
    exact hnext value world hmiddle
  · rw [Attempt.bind_of_error hrun]
    exact .inr ⟨refusal, left, rfl, hrefused, hcause⟩

theorem weaken (hmeets : Meets refused between computation after)
    (hbefore : ∀ caller, before caller → between caller) :
    Meets refused before computation after :=
  fun world caller h => hmeets world (hbefore caller h)

theorem strengthen {last : α → Caller σ → Prop} (hmeets : Meets refused before computation after)
    (hafter : ∀ value caller, after value caller → last value caller) :
    Meets refused before computation last :=
  fun world _ hbefore => (hmeets world hbefore).imp_left fun ⟨value, left, hrun, h⟩ =>
    ⟨value, left, hrun, hafter value left h⟩

end Meets

/-! ## Changing the slots -/

section Slots

variable {opened : List (Option String)} {hand rest : List Holding} {caller : Caller σ}
  {name : String} {holding : Holding}

theorem Books.hand_perm {others : List Holding} (hbooks : Books opened hand caller)
    (hperm : hand.Perm others) : Books opened others caller :=
  ⟨hbooks.distinct, hbooks.accounts.perm (hperm.append_right _)⟩

/-- A string that points nowhere may be held without owning anything. -/
theorem Books.addNull (hbooks : Books opened hand caller) (length : Nat) :
    Books opened (.string ⟨0, length⟩ :: hand) caller :=
  ⟨hbooks.distinct, hbooks.accounts.addNull length⟩

/-- A holding in hand may be given up for the address of its block. -/
theorem Books.toAddress (hbooks : Books opened (holding :: hand) caller) :
    Books opened (Holding.ofAddress holding.address ++ hand) caller := by
  refine ⟨hbooks.distinct, ?_⟩
  rw [List.append_assoc]
  exact hbooks.accounts.toAddress

/-- What is laid out at a place is accounted for as it was. -/
theorem Books.setString (hbooks : Books opened hand caller) (place : Place)
    (string : GuestString) :
    Books opened hand { caller with machine := caller.machine.setString place string } :=
  ⟨hbooks.distinct, hbooks.accounts.setString place string⟩

/-- Opening a slot takes what it holds in hand. -/
theorem Books.openSlot (hbooks : Books opened hand caller)
    (hfound : caller.slots.lookup name = some holding) (hclosed : some name ∉ opened) :
    Books (some name :: opened) (holding :: hand) caller := by
  refine ⟨hbooks.distinct, hbooks.accounts.perm ?_⟩
  have hheld := Slots.held_open hbooks.distinct hfound hclosed
  exact (hheld.append_left hand).trans List.perm_middle

theorem Books.clear (hbooks : Books (some name :: opened) hand caller) :
    Books opened hand { caller with slots := caller.slots.without name } := by
  refine ⟨hbooks.distinct.without, ?_⟩
  have haccounts := hbooks.accounts
  rw [← Slots.held_without] at haccounts
  exact haccounts

/-- What is put into an open slot leaves the hand. -/
theorem Books.put (hbooks : Books (some name :: opened) (holding :: hand) caller)
    (hclosed : some name ∉ opened) :
    Books opened hand { caller with slots := caller.slots.put name holding } := by
  refine ⟨hbooks.distinct.put, ?_⟩
  simp only [Slots.held_put hclosed]
  exact hbooks.accounts.perm List.perm_middle.symm

/-- What is put into a slot that stays open does not matter. -/
theorem Books.putOpen (hbooks : Books opened hand caller) (hopened : some name ∈ opened)
    (holding : Holding) :
    Books opened hand { caller with slots := caller.slots.put name holding } := by
  refine ⟨hbooks.distinct.put, ?_⟩
  simp only [Slots.held_put_of_mem hopened]
  exact hbooks.accounts

/-- A slot that is not there may be opened. -/
theorem Books.openNone (hbooks : Books [] hand caller) (hnone : caller.slots.lookup name = none) :
    Books [some name] hand caller := by
  refine ⟨hbooks.distinct, ?_⟩
  have hwithout : caller.slots.without name = caller.slots := by
    refine List.filter_eq_self.mpr fun slot hslot => bne_iff_ne.mpr fun hname => ?_
    exact lookup_eq_none_iff_notMem.mp hnone (List.mem_map.mpr ⟨slot, hslot, hname⟩)
  rw [← Slots.held_without, hwithout]
  exact hbooks.accounts

theorem Lends.openSlot (hlends : Lends name holding rest caller) :
    Books [some name] (holding :: rest) caller :=
  hlends.books.openSlot hlends.found (List.not_mem_nil)

/-- What a slot holds is accounted for, beside everything else. -/
theorem Lends.accounts (hlends : Lends name holding rest caller) :
    Accounts caller.machine (holding :: (rest ++ caller.slots.held [some name])) :=
  hlends.openSlot.accounts

/-- What was lent is back in its slot as long as the slot is as it was. -/
theorem Lends.of_accounts {machine : Machine σ} (hlends : Lends name holding rest caller)
    (haccounts : Accounts machine (holding :: (rest ++ caller.slots.held [some name]))) :
    Lends name holding rest { caller with machine } := by
  refine ⟨⟨hlends.books.distinct, haccounts.perm ?_⟩, hlends.found⟩
  have hheld := Slots.held_open hlends.books.distinct hlends.found List.not_mem_nil
  exact List.perm_middle.symm.trans (hheld.append_left rest).symm

theorem Lends.lendsAt {address : Address} (hlends : Lends name (.raw address) rest caller) :
    LendsAt address rest caller :=
  ⟨hlends.books, .inr ⟨name, hlends.found⟩⟩

/-- What is lent is accounted for, and is back in its slot with the accounts as they
are then. -/
theorem LendsAt.accounts {address : Address} (hlends : LendsAt address rest caller) :
    ∃ others, Accounts caller.machine (Holding.ofAddress address ++ others) ∧
      ∀ machine : Machine σ, Accounts machine (Holding.ofAddress address ++ others) →
        LendsAt address rest { caller with machine } := by
  by_cases hnull : address = 0
  · subst hnull
    exact ⟨_, hlends.books.accounts, fun machine haccounts =>
      ⟨⟨hlends.books.distinct, haccounts⟩, .inl rfl⟩⟩
  · obtain ⟨name, hfound⟩ := hlends.held.resolve_left hnull
    have hlent : Lends name (.raw address) rest caller := ⟨hlends.books, hfound⟩
    rw [Holding.ofAddress_of_ne hnull]
    exact ⟨_, hlent.accounts, fun machine haccounts => (hlent.of_accounts haccounts).lendsAt⟩

theorem LendsAt.found {address : Address} (hlends : LendsAt address rest caller)
    (hnull : address ≠ 0) : ∃ block, caller.machine.heap.find? address = some block := by
  obtain ⟨others, haccounts, -⟩ := hlends.accounts
  rw [Holding.ofAddress_of_ne hnull] at haccounts
  obtain ⟨block, hfound, -⟩ := haccounts.owned nofun
  exact ⟨block, hfound⟩

end Slots

namespace Session

variable {refused : Caller σ → Prop} {opened : List (Option String)}
  {given hand rest : List Holding} {gives : α → List Holding} {name : String} {holding : Holding}

/-! ## Calling the guest -/

theorem call_run {computation : Guest σ α} {world : World σ} {caller : Caller σ}
    {value : α} {machine : Machine σ}
    (hrun : computation world caller.machine = (.ok value, machine)) :
    call computation world caller = (.ok value, { caller with machine }) := by
  simp only [call, hrun]
  rfl

/-- A call trades what is in hand. -/
theorem call_meets {computation : Guest σ α} (htrade : Trades given computation gives) :
    Meets refused (Books opened (given ++ hand)) (call computation)
      fun value => Books opened (gives value ++ hand) := by
  intro world caller hbooks
  have haccounts := hbooks.accounts
  rw [List.append_assoc] at haccounts
  obtain ⟨value, machine, hrun, haccounts⟩ := htrade world haccounts
  rw [← List.append_assoc] at haccounts
  exact .inl ⟨value, _, call_run hrun, hbooks.distinct, haccounts⟩

/-- A call that is lent what a slot holds. -/
theorem call_meets_lent {computation : Guest σ α}
    (htrade : Trades [holding] computation fun _ => [holding]) :
    Meets refused (Lends name holding rest) (call computation)
      fun _ => Lends name holding rest := by
  intro world caller hlends
  obtain ⟨value, machine, hrun, haccounts⟩ := htrade world hlends.accounts
  exact .inl ⟨value, _, call_run hrun, hlends.of_accounts haccounts⟩

/-- A request that the guest refuses leaves nothing in hand. -/
theorem request_meets {kind : α → Holding} {computation : Guest σ (Except GuestError α)}
    (htrade : Trades given computation (Holding.ofMade kind)) :
    Meets (Books [] rest) (Books [] (given ++ rest)) (request computation)
      fun value => Books [] (kind value :: rest) := by
  refine (call_meets htrade).bind fun made => ?_
  cases made with
  | ok value => exact .pure fun _ hbooks => hbooks
  | error error => exact .stop (fun _ hbooks => hbooks) nofun

/-! ## Slots -/

theorem releaseHolding_trades (holding : Holding) :
    Trades [holding] (releaseHolding holding : Guest σ Unit) fun _ => [] := by
  cases holding with
  | raw address => exact fun world _ _ haccounts =>
      Guest.release_trades address world haccounts.toAddress
  | buffer owned => exact OwnedBuffer.release_trades owned
  | cString text => exact OwnedCString.release_trades text
  | string view => exact GuestString.release_trades view

theorem find?_run {world : World σ} {caller : Caller σ} :
    find? name world caller = (.ok (caller.slots.lookup name), caller) := rfl

/-- Dropping a slot releases what it holds, and there is no such slot afterwards. -/
theorem drop_meets :
    Meets refused (Books [] hand) (drop name)
      fun _ caller => Books [] hand caller ∧ caller.slots.lookup name = none := by
  intro world caller hbooks
  cases hfound : caller.slots.lookup name with
  | none =>
      refine .inl ⟨false, caller, ?_, hbooks, hfound⟩
      rw [drop, Attempt.bind_of_ok find?_run, hfound]
      rfl
  | some holding =>
      -- the slot is cleared first, and what it held is in hand until it is released
      have hcleared := (hbooks.openSlot hfound List.not_mem_nil).clear
      obtain ⟨_, machine, hrun, haccounts⟩ :=
        releaseHolding_trades holding world hcleared.accounts
      have hcall : call (releaseHolding holding) world
          { caller with slots := caller.slots.without name } =
            (.ok (), { slots := caller.slots.without name, machine }) :=
        call_run hrun
      have hclear : clear name world caller =
          (.ok (), { caller with slots := caller.slots.without name }) := rfl
      have hdropped : Books [] hand { slots := caller.slots.without name, machine } :=
        ⟨hcleared.distinct, haccounts⟩
      refine .inl ⟨true, _, ?_, hdropped, Slots.lookup_without_self⟩
      rw [drop, Attempt.bind_of_ok find?_run, hfound]
      simp only
      rw [Attempt.bind_of_ok hclear, Attempt.bind_of_ok hcall]
      rfl

/-- What is kept is in its slot afterwards. -/
theorem keep_meets :
    Meets refused (Books [] (holding :: rest)) (keep name holding)
      fun _ => Lends name holding rest := by
  refine drop_meets.bind fun _ => ?_
  rintro world caller ⟨hbooks, hnone⟩
  exact .inl ⟨(), _, rfl, (hbooks.openNone hnone).put List.not_mem_nil, Slots.lookup_put_self⟩

/-! ## Lending and taking -/

/-- A lender that finds something of its kind in the slot, or refuses. -/
theorem lend_meets {kind : α → Holding} {lender : Session σ α}
    (hrun : ∀ world caller,
      (∃ value, caller.slots.lookup name = some (kind value) ∧
        lender world caller = (.ok value, caller)) ∨
      lender world caller = (.error (.badSlot name), caller)) :
    Meets (Books [] rest) (Books [] rest) lender fun value => Lends name (kind value) rest := by
  intro world caller hbooks
  rcases hrun world caller with ⟨value, hfound, hvalue⟩ | hrefused
  · exact .inl ⟨value, caller, hvalue, hbooks, hfound⟩
  · exact .inr ⟨_, caller, hrefused, hbooks, nofun⟩

theorem lendBuffer_meets (name : String) :
    Meets (Books [] rest) (Books [] rest) (lendBuffer name : Session σ _)
      fun buffer => Lends name (.buffer buffer) rest := by
  refine lend_meets fun world caller => ?_
  rw [lendBuffer, Attempt.bind_of_ok find?_run]
  cases caller.slots.lookup name with
  | none => exact .inr rfl
  | some holding =>
      cases holding with
      | buffer owned => exact .inl ⟨owned, rfl, rfl⟩
      | raw | cString | string => exact .inr rfl

theorem lendText_meets (name : String) :
    Meets (Books [] rest) (Books [] rest) (lendText name : Session σ _)
      fun text => Lends name (.cString text) rest := by
  refine lend_meets fun world caller => ?_
  rw [lendText, Attempt.bind_of_ok find?_run]
  cases caller.slots.lookup name with
  | none => exact .inr rfl
  | some holding =>
      cases holding with
      | cString text => exact .inl ⟨text, rfl, rfl⟩
      | raw | buffer | string => exact .inr rfl

theorem lendRaw_meets_some (name : String) :
    Meets (Books [] rest) (Books [] rest) (lendRaw (some name) : Session σ _)
      fun address => Lends name (.raw address) rest := by
  refine lend_meets fun world caller => ?_
  rw [lendRaw, Attempt.bind_of_ok find?_run]
  cases caller.slots.lookup name with
  | none => exact .inr rfl
  | some holding =>
      cases holding with
      | raw address => exact .inl ⟨address, rfl, rfl⟩
      | buffer | cString | string => exact .inr rfl

/-- The slot of a name lends a string; it does not lend nothing. -/
theorem lendString_meets_some (name : String) :
    Meets (Books [] rest) (Books [] rest) (lendString (some name) : Session σ _)
      fun string caller => string.elim False fun view => Lends name (.string view) rest caller := by
  intro world caller hbooks
  rw [lendString, Attempt.bind_of_ok find?_run]
  cases hfound : caller.slots.lookup name with
  | none => exact .inr ⟨_, caller, rfl, hbooks, nofun⟩
  | some holding =>
      cases holding with
      | string view => exact .inl ⟨some view, caller, rfl, hbooks, hfound⟩
      | raw | buffer | cString => exact .inr ⟨_, caller, rfl, hbooks, nofun⟩

theorem clear_meets :
    Meets refused (Lends name holding rest) (clear name) fun _ => Books [] (holding :: rest) :=
  fun _ _ hlends => .inl ⟨(), _, rfl, hlends.openSlot.clear⟩

theorem takeBuffer_meets (name : String) :
    Meets (Books [] rest) (Books [] rest) (takeBuffer name : Session σ _)
      fun buffer => Books [] (.buffer buffer :: rest) :=
  (lendBuffer_meets name).bind fun _ => clear_meets.bind fun _ => .pure fun _ hbooks => hbooks

theorem takeText_meets (name : String) :
    Meets (Books [] rest) (Books [] rest) (takeText name : Session σ _)
      fun text => Books [] (.cString text :: rest) :=
  (lendText_meets name).bind fun _ => clear_meets.bind fun _ => .pure fun _ hbooks => hbooks

theorem takeRaw_meets (slot? : Option String) :
    Meets (Books [] rest) (Books [] rest) (takeRaw slot? : Session σ _)
      fun address => Books [] (Holding.ofAddress address ++ rest) := by
  cases slot? with
  | none => exact .pure fun _ hbooks => hbooks
  | some name =>
      exact (lendRaw_meets_some name).bind fun address => clear_meets.bind fun _ =>
        .pure fun _ hbooks => hbooks.toAddress

/-! ### Lending an address -/

theorem lendRaw_meets (slot? : Option String) :
    Meets (Books [] rest) (Books [] rest) (lendRaw slot? : Session σ _)
      fun address => LendsAt address rest := by
  cases slot? with
  | none => exact .pure fun _ hbooks => ⟨hbooks, .inl rfl⟩
  | some name =>
      exact (lendRaw_meets_some name).strengthen fun address _ hlends => hlends.lendsAt

/-- A call that is lent an address, and whose block is as the guest needs it. -/
theorem call_meets_at {address : Address} {needs : Machine σ → Prop} {computation : Guest σ α}
    (hrun : ∀ (world : World σ) (machine : Machine σ) (others : List Holding), needs machine →
      Accounts machine (Holding.ofAddress address ++ others) →
        ∃ value after, computation world machine = (.ok value, after) ∧
          Accounts after (Holding.ofAddress address ++ others)) :
    Meets refused (fun caller => LendsAt address rest caller ∧ needs caller.machine)
      (call computation) fun _ => LendsAt address rest := by
  rintro world caller ⟨hlends, hneeds⟩
  obtain ⟨others, haccounts, hback⟩ := hlends.accounts
  obtain ⟨value, machine, hvalue, hafter⟩ := hrun world caller.machine others hneeds haccounts
  exact .inl ⟨value, _, call_run hvalue, hback machine hafter⟩

/-- A call that is lent a C string. -/
theorem call_meets_text {address : Address} {computation : Guest σ α}
    (hrun : ∀ (world : World σ) (machine : Machine σ) (others : List Holding),
      machine.Terminated address → Accounts machine (Holding.ofAddress address ++ others) →
        ∃ value after, computation world machine = (.ok value, after) ∧
          Accounts after (Holding.ofAddress address ++ others)) :
    Meets refused
      (fun caller => LendsAt address rest caller ∧ caller.machine.Terminated address)
      (call computation) fun _ => LendsAt address rest :=
  call_meets_at hrun

/-- A C string is only lent if its block holds a zero byte. -/
theorem lendCString_meets (slot? : Option String) :
    Meets (Books [] rest) (Books [] rest) (lendCString slot? : Session σ _)
      fun address caller => LendsAt address rest caller ∧ caller.machine.Terminated address := by
  cases slot? with
  | none => exact .pure fun _ hbooks => ⟨⟨hbooks, .inl rfl⟩, .inl rfl⟩
  | some name =>
      refine (lendRaw_meets (some name)).bind fun address => ?_
      intro world caller hlends
      by_cases hnull : address = 0
      · subst hnull
        exact .inl ⟨0, caller, rfl, hlends, .inl rfl⟩
      · obtain ⟨block, hfound⟩ := hlends.found hnull
        rw [if_neg hnull, Attempt.bind_of_ok (call_run (Guest.load_run hfound))]
        cases hzero : block.contents.firstNul? with
        | none => exact .inr ⟨_, caller, rfl, hlends.books, nofun⟩
        | some length =>
            exact .inl ⟨address, caller, rfl, hlends, .inr ⟨block, length, hfound, hzero⟩⟩

end Session

end GuestHost

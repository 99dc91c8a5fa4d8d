import GuestHost.Proofs.Guest.Handles
import GuestHost.Proofs.Guest.Log
import GuestHost.Proofs.Ownership.Accounts

/-!
# Computations as trades

A guest computation that is given some holdings comes back with others: `Trades`
says with which.  It also says that the computation ends with a value, whatever the
system answers, and that everything else in the accounts stays as it is.  Since the
rest of the accounts is part of the definition, what holds of a computation holds of
it in every larger one (`Trades.bind`, `Trades.frame`).

The trades of the operations on handles follow from their run equations, one
operation on the accounts at a time (`Trades.of_answer` for those that make a block);
the trade of a composed computation follows from those of its parts.
-/

namespace GuestHost

namespace Holding

/-- What an address owns by itself: nothing, if it is the null pointer. -/
def ofAddress (address : Address) : List Holding :=
  if address = 0 then [] else [.raw address]

theorem ofAddress_address (holding : Holding) :
    ofAddress holding.address = holding.addresses.map .raw := by
  unfold ofAddress addresses
  split <;> rfl

/-- What is owned after something was to be made. -/
def ofMade {α : Type} (kind : α → Holding) : Except GuestError α → List Holding
  | .ok value => [kind value]
  | .error _ => []

/-- What is owned where there may be nothing. -/
def ofOption {α : Type} (kind : α → Holding) : Option α → List Holding
  | some value => [kind value]
  | none => []

theorem ofAddress_of_ne {address : Address} (hnull : address ≠ 0) :
    ofAddress address = [.raw address] := if_neg hnull

end Holding

open Holding

/-- A holding may be given up for the address of its block. -/
theorem Accounts.toAddress {σ : Type} {machine : Machine σ} {holding : Holding}
    {holdings : List Holding} (haccounts : Accounts machine (holding :: holdings)) :
    Accounts machine (ofAddress holding.address ++ holdings) := by
  cases haccounts.fits holding List.mem_cons_self with
  | null length => exact haccounts.dropNull rfl
  | block block hfound hnull _ =>
      rw [ofAddress_of_ne hnull]
      exact haccounts.exchange _ rfl (.block block hfound hnull trivial)

/-- A holding that is not null may be given up for the bare address. -/
theorem Accounts.toRaw {σ : Type} {machine : Machine σ} {holding : Holding}
    {holdings : List Holding} (haccounts : Accounts machine (holding :: holdings))
    (hkind : ∀ length, holding ≠ .string ⟨0, length⟩) :
    Accounts machine (.raw holding.address :: holdings) := by
  obtain ⟨block, hfound, hnull, -⟩ := haccounts.owned hkind
  exact haccounts.exchange _ rfl (.block block hfound hnull trivial)

/-- Given the first holdings, the computation ends with a value and the holdings that
go with it. -/
def Trades {σ α : Type} (given : List Holding) (computation : Guest σ α)
    (gives : α → List Holding) : Prop :=
  ∀ (world : World σ) ⦃rest : List Holding⦄ ⦃machine : Machine σ⦄,
    Accounts machine (given ++ rest) →
      ∃ value after, computation world machine = (.ok value, after) ∧
        Accounts after (gives value ++ rest)

variable {σ α β : Type}

namespace Trades

variable {given others : List Holding} {computation : Guest σ α} {gives : α → List Holding}

/-! ## Rules -/

theorem pure (value : α) (hgives : gives value = given) :
    Trades given (Pure.pure value : Guest σ α) gives :=
  fun _ _ machine haccounts => ⟨value, machine, rfl, hgives ▸ haccounts⟩

theorem bind {between : α → List Holding} {next : α → Guest σ β} {gives : β → List Holding}
    (hfirst : Trades given computation between)
    (hnext : ∀ value, Trades (between value) (next value) gives) :
    Trades given (computation >>= next) gives := by
  intro world rest machine haccounts
  obtain ⟨value, middle, hrun, haccounts⟩ := hfirst world haccounts
  obtain ⟨answer, after, hrest, haccounts⟩ := hnext value world haccounts
  exact ⟨answer, after, (Attempt.bind_of_ok hrun).trans hrest, haccounts⟩

/-- What a computation does not touch can be held beside it. -/
theorem frame (htrade : Trades given computation gives) (kept : List Holding) :
    Trades (given ++ kept) computation fun value => gives value ++ kept := by
  intro world rest machine haccounts
  rw [List.append_assoc] at haccounts
  obtain ⟨value, after, hrun, haccounts⟩ := htrade world haccounts
  refine ⟨value, after, hrun, ?_⟩
  rw [List.append_assoc]
  exact haccounts

theorem perm (htrade : Trades given computation gives) (hperm : others.Perm given) :
    Trades others computation gives := by
  intro world rest machine haccounts
  exact htrade world (haccounts.perm (hperm.append_right rest))

/-- A computation that only has the host print something. -/
theorem of_say
    (hsay : ∀ (world : World σ) (machine : Machine σ), ∃ value message,
      computation world machine = (.ok value, machine.say world.host message)) :
    Trades [] computation fun _ => [] := by
  intro world rest machine haccounts
  obtain ⟨value, message, hrun⟩ := hsay world machine
  exact ⟨value, _, hrun, haccounts.say _ _⟩

/-- A computation that asks the system for one block: it is enough to know what it does with the
answer, and that its value goes with a block of the contents. -/
theorem of_answer {make : Guest σ (Except GuestError α)} {kind : α → Holding} {capacity : Nat}
    {contents : Bytes} (value : Address → α)
    (hdenied : ∀ {world : World σ} {machine : Machine σ}, world.answer machine capacity = none →
      make world machine = (.ok (.error (.allocationFailed capacity)), machine.deny capacity))
    (hgranted : ∀ {world : World σ} {machine : Machine σ} {address : Address},
      world.answer machine capacity = some address → ∃ block : Block, block.contents = contents ∧
        make world machine = (.ok (.ok (value address)), machine.grant address block))
    (haddress : ∀ address, (kind (value address)).address = address)
    (hdescribes : ∀ address (block : Block), block.contents = contents →
      (kind (value address)).Describes block) :
    Trades [] make (ofMade kind) := by
  intro world rest machine haccounts
  cases hanswer : world.answer machine capacity with
  | none => exact ⟨_, _, hdenied hanswer, haccounts.deny _⟩
  | some address =>
      obtain ⟨block, hcontents, hrun⟩ := hgranted hanswer
      have hfresh := World.fresh_of_answer hanswer
      have hnull := World.answer_ne_zero hanswer
      rw [← haddress address] at hfresh hnull
      have hgrant := haccounts.grant (kind (value address)) block hfresh hnull
        (hdescribes address block hcontents)
      rw [haddress address] at hgrant
      exact ⟨_, _, hrun, hgrant⟩

end Trades

/-! ## Blocks -/

namespace Guest

/-- A block is made at an address, or nothing is. -/
theorem allocate_trades (capacity : Nat) :
    Trades [] (allocate capacity : Guest σ _) (ofMade .raw) :=
  .of_answer id allocate_run_denied allocate_run_granted (fun _ => rfl) fun _ _ _ => trivial

theorem release_trades (address : Address) :
    Trades (ofAddress address) (release address : Guest σ _) fun _ => [] := by
  intro world rest machine haccounts
  by_cases hnull : address = 0
  · subst hnull
    exact ⟨_, _, release_run_null, haccounts⟩
  · rw [ofAddress_of_ne hnull] at haccounts
    obtain ⟨block, hfound, -, -⟩ := haccounts.owned nofun
    exact ⟨_, _, release_run hfound hnull, haccounts.free hfound hnull⟩

theorem load_trades (address : Address) :
    Trades [.raw address] (load address : Guest σ _) fun _ => [.raw address] := by
  intro world rest machine haccounts
  obtain ⟨block, hfound, -, -⟩ := haccounts.owned nofun
  exact ⟨_, _, load_run hfound, haccounts⟩

theorem capacityOf_trades (address : Address) :
    Trades [.raw address] (capacityOf address : Guest σ _) fun _ => [.raw address] :=
  (load_trades address).bind fun _ => .pure _ rfl

theorem printText_trades (text : String) :
    Trades [] (printText text : Guest σ _) fun _ => [] :=
  .of_say fun _ _ => ⟨_, _, printText_run text⟩

theorem log_trades (level : Level) (message : String) :
    Trades [] (log level message : Guest σ _) fun _ => [] :=
  .of_say fun _ _ => ⟨_, _, log_run level message⟩

theorem sendBuffer_trades (bytes : Bytes) :
    Trades [] (sendBuffer bytes : Guest σ _) fun _ => [] :=
  fun _ _ _ haccounts => ⟨_, _, rfl, haccounts.congr rfl rfl⟩

end Guest

theorem Sample.report_trades (name : String) (error : GuestError) :
    Trades [] (report name error : Guest σ _) fun _ => [] :=
  .of_say fun _ _ => ⟨_, _, report_run name error⟩

/-! ## Buffers -/

namespace OwnedBuffer

theorem allocate_trades (length : Nat) :
    Trades [] (allocate length : Guest σ _) (ofMade .buffer) := by
  refine .of_answer (fun address => ⟨address, length⟩) allocate_run_denied allocate_run_granted
    (fun _ => rfl) fun address block hcontents => Nat.le_of_eq ?_
  rw [← block.length_contents, hcontents, List.length_replicate]

theorem ofBytes_trades (bytes : Bytes) :
    Trades [] (ofBytes bytes : Guest σ _) (ofMade .buffer) := by
  refine .of_answer (fun address => ⟨address, bytes.length⟩) ofBytes_run_denied
    ofBytes_run_granted (fun _ => rfl) fun address block hcontents => Nat.le_of_eq ?_
  rw [← block.length_contents, hcontents]

theorem framed_trades (payload : Bytes) :
    Trades [] (framed payload : Guest σ _) (ofMade .buffer) := by
  cases hheader : Frame.header payload.length with
  | error error =>
      exact fun _ _ _ haccounts => ⟨_, _, framed_run_tooLarge hheader, haccounts⟩
  | ok header =>
      refine .of_answer (fun address => ⟨address, Frame.headerSize + payload.length⟩)
        (framed_run_denied hheader) (framed_run_granted hheader) (fun _ => rfl)
        fun address block hcontents => Nat.le_of_eq ?_
      rw [← block.length_contents, hcontents, List.length_append, Frame.length_header hheader]

theorem adopt_trades (address : Address) :
    Trades (ofAddress address) (adopt address : Guest σ _) (ofMade .buffer) := by
  intro world rest machine haccounts
  by_cases hnull : address = 0
  · subst hnull
    exact ⟨_, _, adopt_run_null, haccounts⟩
  · rw [ofAddress_of_ne hnull] at haccounts
    obtain ⟨block, hfound, -, -⟩ := haccounts.owned nofun
    exact ⟨_, _, adopt_run hfound hnull,
      haccounts.exchange _ rfl (.block block hfound hnull (Nat.le_refl _))⟩

/-- A buffer that cannot be truncated is released on the spot. -/
theorem truncate_trades (buffer : OwnedBuffer) (length : Int32) :
    Trades [.buffer buffer] (buffer.truncate length : Guest σ _) (ofMade .buffer) := by
  intro world rest machine haccounts
  obtain ⟨block, hfound, hnull, -⟩ := haccounts.owned nofun
  by_cases hvalid : ∃ count, Word.toCount? length = some count ∧ count ≤ block.capacity
  · obtain ⟨count, hcount, hfits⟩ := hvalid
    exact ⟨_, _, truncate_run hfound hcount hfits,
      haccounts.exchange _ rfl (.block block hfound hnull hfits)⟩
  · have hinvalid : ∀ count, Word.toCount? length = some count → block.capacity < count :=
      fun count hcount => Nat.lt_of_not_le fun hfits => hvalid ⟨count, hcount, hfits⟩
    exact ⟨_, _, truncate_run_invalid hfound hnull hinvalid, haccounts.free hfound hnull⟩

/-- The address of a buffer stands for the buffer that is given up. -/
theorem address_trades (buffer : OwnedBuffer) :
    Trades [.buffer buffer] (Pure.pure buffer.address : Guest σ _) ofAddress :=
  fun _ _ machine haccounts => ⟨_, machine, rfl, haccounts.toAddress⟩

theorem release_trades (buffer : OwnedBuffer) :
    Trades [.buffer buffer] (buffer.release : Guest σ _) fun _ => [] := by
  intro world rest machine haccounts
  obtain ⟨block, hfound, hnull, -⟩ := haccounts.owned nofun
  exact ⟨_, _, release_run hfound hnull, haccounts.free hfound hnull⟩

theorem capacity_trades (buffer : OwnedBuffer) :
    Trades [.buffer buffer] (buffer.capacity : Guest σ _) fun _ => [.buffer buffer] := by
  intro world rest machine haccounts
  obtain ⟨block, hfound, -, -⟩ := haccounts.owned nofun
  exact ⟨_, _, capacity_run hfound, haccounts⟩

theorem bytes_trades (buffer : OwnedBuffer) :
    Trades [.buffer buffer] (buffer.bytes : Guest σ _) fun _ => [.buffer buffer] := by
  intro world rest machine haccounts
  obtain ⟨block, hfound, -, -⟩ := haccounts.owned nofun
  exact ⟨_, _, bytes_run hfound, haccounts⟩

theorem write_trades {buffer : OwnedBuffer} {offset : Nat} {patch : Bytes}
    (hpatch : offset + patch.length ≤ buffer.length) :
    Trades [.buffer buffer] (buffer.write offset patch : Guest σ _) fun _ => [.buffer buffer] := by
  intro world rest machine haccounts
  obtain ⟨block, hfound, hnull, hfits⟩ := haccounts.owned nofun
  exact ⟨_, _, write_run hfound hpatch hfits, haccounts.patch _ hfound rfl hnull hfits⟩

end OwnedBuffer

/-! ## C strings -/

namespace OwnedCString

theorem ofBytes_trades (bytes : Bytes) :
    Trades [] (ofBytes bytes : Guest σ _) (ofMade .cString) := by
  cases hzero : bytes.firstNul? with
  | some position =>
      exact fun _ _ _ haccounts => ⟨_, _, ofBytes_run_interior hzero, haccounts⟩
  | none =>
      refine .of_answer (fun address => ⟨⟨address, bytes.length + 1⟩, bytes.length⟩)
        (ofBytes_run_denied hzero) (ofBytes_run_granted hzero) (fun _ => rfl)
        fun address block hcontents => ⟨Nat.lt_succ_self _, Nat.le_of_eq ?_, ?_⟩
      · rw [← block.length_contents, hcontents, List.length_append, List.length_singleton]
      -- the zero behind the bytes is the terminator that the handle relies on
      · rw [hcontents]
        simp

/-- A block without a terminator is released on the spot. -/
theorem adopt_trades (address : Address) :
    Trades (ofAddress address) (adopt address : Guest σ _) (ofMade .cString) := by
  intro world rest machine haccounts
  by_cases hnull : address = 0
  · subst hnull
    exact ⟨_, _, adopt_run_null, haccounts⟩
  · rw [ofAddress_of_ne hnull] at haccounts
    obtain ⟨block, hfound, -, -⟩ := haccounts.owned nofun
    cases hzero : block.contents.firstNul? with
    | none => exact ⟨_, _, adopt_run_unterminated hfound hnull hzero, haccounts.free hfound hnull⟩
    | some length =>
        have hdescribes : (Holding.cString ⟨⟨address, block.capacity⟩, length⟩).Describes block :=
          ⟨Block.firstNul?_lt hzero, Nat.le_refl _, Bytes.getElem?_firstNul? hzero⟩
        exact ⟨_, _, adopt_run hfound hnull hzero,
          haccounts.exchange _ rfl (.block block hfound hnull hdescribes)⟩

theorem release_trades (text : OwnedCString) :
    Trades [.cString text] (text.release : Guest σ _) fun _ => [] := by
  intro world rest machine haccounts
  obtain ⟨block, hfound, hnull, -⟩ := haccounts.owned nofun
  exact ⟨_, _, release_run hfound hnull, haccounts.free hfound hnull⟩

theorem bytes_trades (text : OwnedCString) :
    Trades [.cString text] (text.bytes : Guest σ _) fun _ => [.cString text] := by
  intro world rest machine haccounts
  obtain ⟨block, hfound, -, hlength, hfits, -⟩ := haccounts.owned nofun
  exact ⟨_, _, bytes_run hfound hlength hfits, haccounts⟩

theorem cString_trades (text : OwnedCString) :
    Trades [.cString text] (text.cString : Guest σ _) fun _ => [.cString text] := by
  intro world rest machine haccounts
  obtain ⟨block, hfound, -, hlength, hfits, hzero⟩ := haccounts.owned nofun
  exact ⟨_, _, cString_run hfound hlength hfits hzero, haccounts⟩

/-- Writing before the terminator leaves it where it is. -/
theorem write_trades {text : OwnedCString} {offset : Nat} {patch : Bytes}
    (hpatch : offset + patch.length ≤ text.length) :
    Trades [.cString text] (text.write offset patch : Guest σ _) fun _ => [.cString text] := by
  intro world rest machine haccounts
  obtain ⟨block, hfound, hnull, hlength, hfits, hzero⟩ := haccounts.owned nofun
  have hoffset : offset ≤ block.contents.length := by
    have hcontents := block.length_contents
    omega
  have hterminator : (Bytes.splice block.contents offset patch)[text.length]? = some 0 := by
    rw [Bytes.getElem?_splice hoffset hpatch, hzero]
  exact ⟨_, _, write_run hfound hpatch hlength hfits,
    haccounts.patch _ hfound rfl hnull ⟨hlength, hfits, hterminator⟩⟩

end OwnedCString

/-! ## Strings by pointer and length -/

namespace GuestString

theorem bytes_trades (string : GuestString) :
    Trades [.string string] (string.bytes : Guest σ _) fun _ => [.string string] := by
  intro world rest machine haccounts
  exact ⟨_, _, bytes_run haccounts.within, haccounts⟩

theorem release_trades (string : GuestString) :
    Trades [.string string] (string.release : Guest σ _) fun _ => [] := by
  intro world rest machine haccounts
  exact ⟨_, _, release_run haccounts.within, haccounts.drop⟩

end GuestString

end GuestHost

import GuestHost.Proofs.Ownership.Trades
import GuestHost.Proofs.Sample.Entry

/-!
# What samples and exported functions trade

For each sample and each exported function, what it is given and what it gives back.
A function that takes a block over gives back what its result owns, and nothing
else, whichever way it ends.  A lent message is not given at all, but the function
relies on it: its block has to be live and to hold a zero byte
(`Machine.Terminated`).

`Entry.guestEcho_accounts` follows two strings at places: what the first one owned is
released, and what stands at the place of the second one owns the copy.

The busy loop and the host's test function may stop, because the host's functions
may panic; they leave the accounts as they are when they do (`Spares`).
-/

namespace GuestHost

open Holding

variable {σ : Type}

/-! ## Samples -/

namespace Sample

theorem hello_trades : Trades [] (hello : Guest σ _) fun _ => [] :=
  .of_say fun _ _ => ⟨_, _, hello_run⟩

theorem plainHelloWorld_trades : Trades [] (plainHelloWorld : Guest σ _) fun _ => [] :=
  .of_say fun _ _ => ⟨_, _, plainHelloWorld_run⟩

theorem printHelloWorld_trades : Trades [] (printHelloWorld : Guest σ _) fun _ => [] :=
  .of_say fun _ _ => ⟨_, _, printHelloWorld_run⟩

theorem passBuffer_trades : Trades [] (passBuffer : Guest σ _) fun _ => [] :=
  Guest.sendBuffer_trades _

/-- The scratch buffer does not outlive the greeting. -/
theorem helloWorld_trades (message : Bytes) :
    Trades [] (helloWorld message : Guest σ _) fun _ => [] := by
  intro world rest machine haccounts
  cases hanswer : world.answer machine Abi.scratchBufferSize with
  | none =>
      have hfinal := ((haccounts.say world.host (messageLine message)).deny
        Abi.scratchBufferSize).say world.host noScratchLine
      exact ⟨_, _, helloWorld_run_denied message hanswer, hfinal⟩
  | some address =>
      obtain ⟨zeros, written, hcapacity, hrun⟩ := helloWorld_run_granted message hanswer
      have hfresh := World.fresh_of_answer hanswer
      have hnull := World.answer_ne_zero hanswer
      have hfresh' : (machine.say world.host (messageLine message)).heap.find? address = none :=
        hfresh
      -- the block in hand is held as a bare address, of which nothing has to be true
      have hgranted := ((haccounts.say world.host (messageLine message)).grant
        (.raw address) zeros hfresh' hnull trivial).say world.host
          (scratchLine address)
      have hzeros : (((machine.say world.host (messageLine message)).grant address zeros).say
          world.host (scratchLine address)).heap.find? address = some zeros := by
        rw [Machine.heap_say, Machine.find?_grant_self hfresh']
      have hpatched :=
        (hgranted.patch written hzeros hcapacity hnull trivial).say world.host contentsLine
      have hwritten := Machine.find?_patch_self written hzeros
      exact ⟨_, _, hrun, hpatched.free hwritten hnull⟩

theorem receiveByteArray_trades (data : OwnedBuffer) :
    Trades [.buffer data] (receiveByteArray data : Guest σ _) (ofOption .buffer) := by
  refine (OwnedBuffer.bytes_trades data).bind fun bytes => ?_
  refine ((OwnedBuffer.framed_trades bytes).frame [.buffer data]).bind fun made => ?_
  cases made with
  | ok framed =>
      have hrelease := ((OwnedBuffer.release_trades (σ := σ) data).frame [.buffer framed]).perm
        (List.Perm.swap ..)
      exact hrelease.bind fun _ => .pure (some framed) rfl
  | error error =>
      refine ((report_trades _ error).frame [.buffer data]).bind fun _ => ?_
      exact (OwnedBuffer.release_trades data).bind fun _ => .pure none rfl

theorem print_trades (message : OwnedCString) :
    Trades [.cString message] (print message : Guest σ _) fun _ => [] := by
  refine (OwnedCString.cString_trades message).bind fun bytes => ?_
  have hprint : Trades [] (Guest.print bytes : Guest σ _) fun _ => [] :=
    .of_say fun _ _ => ⟨_, _, Guest.print_run bytes⟩
  exact (hprint.frame [.cString message]).bind fun _ => OwnedCString.release_trades message

theorem printUsingHostPrint_trades (message : OwnedCString) :
    Trades [.cString message] (printUsingHostPrint message : Guest σ _) fun _ => [] :=
  (print_trades message).bind fun _ => .pure _ rfl

theorem printUpper_trades (message : OwnedCString) :
    Trades [.cString message] (printUpper message : Guest σ _) fun _ => [] := by
  intro world rest machine haccounts
  obtain ⟨block, hfound, hnull, hlength, hfits, hzero⟩ := haccounts.owned nofun
  rcases Nat.eq_zero_or_pos message.length with hempty | hpositive
  · exact ⟨_, _, printUpper_run_empty hfound hnull hempty hlength hfits hzero,
      (haccounts.say _ _).free hfound hnull⟩
  · obtain ⟨upper, rfl, hrun⟩ := printUpper_run world message hfound hnull hpositive hlength
      hfits hzero
    have hraw := haccounts.exchange (.raw message.buffer.address) rfl
      (.block block hfound hnull trivial)
    have hpatched := hraw.patch (block.upper message.length (by omega)) hfound rfl hnull
      trivial
    have hupper := Machine.find?_patch_self (block.upper message.length (by omega)) hfound
    exact ⟨_, _, hrun, (hpatched.say _ _).free hupper hnull⟩

/-- A copy is owned beside the string that it was made of, and in its place when the
string has been released. -/
theorem accounts_copy {world : World σ} {machine : Machine σ} {string : GuestString}
    {rest : List Holding} {address : Address} {copy : Block}
    (haccounts : Accounts machine (.string string :: rest))
    (hanswer : world.answer machine (string.contents machine.heap).length = some address)
    (hcontents : copy.contents = string.contents machine.heap) :
    Accounts ((machine.grant address copy).drop string.pointer)
      (.string ⟨address, (string.contents machine.heap).length⟩ :: rest) := by
  have hfits : (string.contents machine.heap).length ≤ copy.capacity :=
    Nat.le_of_eq (by rw [← copy.length_contents, hcontents])
  have hgranted := haccounts.grant
    (.string ⟨address, (string.contents machine.heap).length⟩) copy
    (World.fresh_of_answer hanswer) (World.answer_ne_zero hanswer) hfits
  exact (hgranted.perm (List.Perm.swap ..)).drop

/-- The block of the string is released, and the copy is owned, if there is one.  The empty
string is left where the string stood. -/
theorem echoString_accounts (world : World σ) {machine : Machine σ} {place : Place}
    {string : GuestString} {rest : List Holding} (hstring : machine.strings place = string)
    (haccounts : Accounts machine (.string string :: rest)) :
    ∃ copy middle, echoString (some place) world machine =
        (.ok copy, middle.setString place .empty) ∧
      middle.strings = machine.strings ∧ Accounts middle (.string copy :: rest) := by
  have hwithin := haccounts.within
  cases hanswer : world.answer machine (string.contents machine.heap).length with
  | none =>
      have hreported := (haccounts.deny (string.contents machine.heap).length).say world.host
        (errorLine Export.guestEcho (.allocationFailed (string.contents machine.heap).length))
      refine ⟨_, _, echoString_run_denied hstring hwithin hanswer, ?_, hreported.drop.addNull 0⟩
      exact (Machine.strings_drop ..).trans (Machine.strings_deny ..)
  | some address =>
      obtain ⟨copy, hcontents, hrun⟩ := echoString_run_granted hstring hwithin hanswer
      exact ⟨_, _, hrun, Machine.strings_drop .., accounts_copy haccounts hanswer hcontents⟩

end Sample

/-! ## Exported functions -/

namespace Entry

theorem malloc_trades (size : Int32) : Trades [] (malloc size : Guest σ _) ofAddress := by
  intro world rest machine haccounts
  cases hsize : Word.toCount? size with
  | none => exact ⟨_, _, malloc_run_negative hsize, haccounts⟩
  | some capacity =>
      cases hanswer : world.answer machine capacity with
      | none => exact ⟨_, _, malloc_run_denied hsize hanswer, haccounts.deny capacity⟩
      | some address =>
          obtain ⟨block, -, hrun⟩ := malloc_run_granted hsize hanswer
          have hnull := World.answer_ne_zero hanswer
          refine ⟨_, _, hrun, ?_⟩
          rw [ofAddress_of_ne hnull]
          exact haccounts.grant (.raw address) block (World.fresh_of_answer hanswer) hnull trivial

theorem free_trades (address : Address) :
    Trades (ofAddress address) (free address : Guest σ _) fun _ => [] :=
  Guest.release_trades address

theorem receiveByteArray_trades (data : Address) (length : Int32) :
    Trades (ofAddress data) (receiveByteArray data length : Guest σ _) ofAddress := by
  refine (OwnedBuffer.adopt_trades data).bind fun adopted => ?_
  cases adopted with
  | error error => exact (Sample.report_trades _ error).bind fun _ => .pure _ rfl
  | ok buffer =>
      refine (OwnedBuffer.truncate_trades buffer length).bind fun truncated => ?_
      cases truncated with
      | error error => exact (Sample.report_trades _ error).bind fun _ => .pure _ rfl
      | ok buffer =>
          refine (Sample.receiveByteArray_trades buffer).bind fun framed => ?_
          cases framed with
          | none => exact .pure _ rfl
          | some framed => exact OwnedBuffer.address_trades framed

/-- A message that is taken over is traded as the sample trades it. -/
theorem adoptMessage_trades {α : Type} {use : OwnedCString → Guest σ α}
    (huse : ∀ text, Trades [.cString text] (use text) fun _ => []) (name : String)
    (message : Address) (refusal : α) :
    Trades (ofAddress message) (adoptMessage name message refusal use) fun _ => [] := by
  refine (OwnedCString.adopt_trades message).bind fun adopted => ?_
  cases adopted with
  | ok text => exact huse text
  | error error => exact (Sample.report_trades name error).bind fun _ => .pure _ rfl

theorem printUsingHostPrint_trades (message : Address) :
    Trades (ofAddress message) (printUsingHostPrint message : Guest σ _) fun _ => [] :=
  adoptMessage_trades Sample.printUsingHostPrint_trades _ message _

theorem print_trades (message : Address) :
    Trades (ofAddress message) (print message : Guest σ _) fun _ => [] :=
  adoptMessage_trades Sample.print_trades _ message _

theorem printUpper_trades (message : Address) :
    Trades (ofAddress message) (printUpper message : Guest σ _) fun _ => [] :=
  adoptMessage_trades Sample.printUpper_trades _ message _

theorem echo_trades (message : Address) :
    Trades (ofAddress message) (echo message : Guest σ _) ofAddress := by
  refine (OwnedBuffer.adopt_trades message).bind fun adopted => ?_
  cases adopted with
  | error error => exact .pure _ rfl
  | ok buffer => exact OwnedBuffer.address_trades buffer

/-! ### Copying a string -/

/-- A copy is owned where there is a place for it. -/
theorem give_accounts {machine : Machine σ} {copy : GuestString} {rest : List Holding}
    (haccounts : Accounts machine (.string copy :: rest)) (result : Option Place) :
    Accounts (give machine result copy)
      (ofOption Holding.string (result.map fun _ => copy) ++ rest) := by
  cases result with
  | none => exact haccounts.drop
  | some place => exact haccounts.setString place copy

/-- The block of the argument is released, and the copy is owned if it is given back.  Whatever
else stood at the place of the result is not seen by the guest. -/
theorem guestEcho_accounts (world : World σ) {machine : Machine σ} {place : Place}
    {string : GuestString} {rest : List Holding} (hstring : machine.strings place = string)
    (haccounts : Accounts machine (.string string :: rest)) (result : Option Place) :
    ∃ copy after, guestEcho (some place) result world machine = (.ok (), after) ∧
      Delivers machine after (some place) result copy ∧
      Accounts after (ofOption Holding.string (result.map fun _ => copy) ++ rest) := by
  obtain ⟨copy, middle, hecho, hstrings, haccounts⟩ :=
    Sample.echoString_accounts world hstring haccounts
  have hfreed := haccounts.setString place .empty
  exact ⟨copy, _, guestEcho_run hecho hfreed.within, delivers_give hstrings,
    give_accounts hfreed result⟩

end Entry

/-! ## Lent messages -/

/-- An address that can be lent as a C string: its block holds a zero byte.  The null
pointer can be lent too. -/
def Machine.Terminated (machine : Machine σ) (address : Address) : Prop :=
  address = 0 ∨
    ∃ block length, machine.heap.find? address = some block ∧
      block.contents.firstNul? = some length

section Lent

variable {world : World σ} {machine : Machine σ} {address : Address} {holdings : List Holding}

theorem lentBytes_lent (world : World σ) (hlent : machine.Terminated address) :
    ∃ bytes, OwnedCString.lentBytes address world machine = (.ok bytes, machine) := by
  by_cases hnull : address = 0
  · subst hnull
    exact ⟨_, OwnedCString.lentBytes_run_null⟩
  · obtain ⟨block, length, hfound, hzero⟩ := hlent.resolve_left hnull
    exact ⟨_, OwnedCString.lentBytes_run hfound hnull hzero⟩

theorem Entry.helloWorld_lent (hlent : machine.Terminated address)
    (haccounts : Accounts machine holdings) :
    ∃ answer after, helloWorld address world machine = (.ok answer, after) ∧
      Accounts after holdings := by
  by_cases hnull : address = 0
  · subst hnull
    exact ⟨_, _, helloWorld_run_null, haccounts.say _ _⟩
  · obtain ⟨block, length, hfound, hzero⟩ := hlent.resolve_left hnull
    rw [helloWorld_run hfound hnull hzero]
    exact Sample.helloWorld_trades _ world haccounts

/-- The message is changed in place, which only its own block can tell. -/
theorem Entry.toUpper_lent (hlent : machine.Terminated address)
    (haccounts : Accounts machine (ofAddress address ++ holdings)) :
    ∃ answer after, toUpper address world machine = (.ok answer, after) ∧
      Accounts after (ofAddress address ++ holdings) := by
  by_cases hnull : address = 0
  · subst hnull
    exact ⟨_, _, toUpper_run_null, haccounts⟩
  · obtain ⟨block, length, hfound, hzero⟩ := hlent.resolve_left hnull
    cases length with
    | zero => exact ⟨_, _, toUpper_run_empty hfound hnull hzero, haccounts⟩
    | succ length =>
        have hfits : length + 1 ≤ block.capacity := Nat.le_of_lt (Block.firstNul?_lt hzero)
        rw [ofAddress_of_ne hnull] at haccounts ⊢
        exact ⟨_, _, toUpper_run world hfound hnull hfits hzero,
          haccounts.patch _ hfound rfl hnull trivial⟩

end Lent

/-! ## Computations that may stop -/

/-- The computation leaves the accounts as they are, whether it ends or stops; and if it
stops, then not because of a block. -/
def Spares {α : Type} (computation : Guest σ α) : Prop :=
  ∀ (world : World σ) ⦃holdings : List Holding⦄ ⦃machine : Machine σ⦄,
    Accounts machine holdings →
      Accounts (computation world machine).2 holdings ∧
        ∀ address, (computation world machine).1 ≠ .error (.misuse address)

namespace Spares

variable {α β : Type}

theorem of_trades {computation : Guest σ α} (htrade : Trades [] computation fun _ => []) :
    Spares computation := by
  intro world holdings machine haccounts
  obtain ⟨value, after, hrun, haccounts⟩ := htrade world haccounts
  rw [hrun]
  exact ⟨haccounts, nofun⟩

theorem pure (value : α) : Spares (Pure.pure value : Guest σ α) :=
  of_trades (.pure value rfl)

theorem stop {cause : Stop} (hcause : ∀ address, cause ≠ .misuse address) :
    Spares (Attempt.stop cause : Guest σ α) :=
  fun _ _ _ haccounts => ⟨haccounts, fun address hstop => hcause address (Except.error.inj hstop)⟩

theorem bind {first : Guest σ α} {next : α → Guest σ β} (hfirst : Spares first)
    (hnext : ∀ value, Spares (next value)) : Spares (first >>= next) := by
  intro world holdings machine haccounts
  obtain ⟨hafter, hmisuse⟩ := hfirst world haccounts
  rw [Attempt.bind_apply]
  rcases hrun : first world machine with ⟨outcome, after⟩
  rw [hrun] at hafter hmisuse
  cases outcome with
  | ok value => exact hnext value world hafter
  | error cause =>
      refine ⟨hafter, fun address hstop => hmisuse address ?_⟩
      rw [Except.error.inj hstop]

/-- A function of the host that may panic. -/
theorem of_host {computation : Guest σ α} (answer : World σ → σ → Except Panic α × σ)
    (hrun : ∀ world machine, computation world machine =
      (((answer world machine.host).1).mapError .panic,
        { machine with host := (answer world machine.host).2 })) : Spares computation := by
  intro world holdings machine haccounts
  rw [hrun]
  refine ⟨haccounts.congr rfl rfl, fun address hstop => ?_⟩
  cases houtcome : (answer world machine.host).1 with
  | ok value =>
      rw [houtcome] at hstop
      cases hstop
  | error cause =>
      rw [houtcome] at hstop
      cases hstop

end Spares

namespace Sample

theorem readClock_spares : Spares (Guest.readClock : Guest σ Int64) :=
  .of_host (fun world => world.host.clock) fun _ _ => rfl

theorem callHostFunction_spares (argument : Int32) :
    Spares (callHostFunction argument : Guest σ Int32) :=
  .of_host (fun world => world.host.test argument) fun _ _ => rfl

/-- By induction on the rounds that are left. -/
theorem spin_spares (start budget : Int64) (rounds : Nat) (counter : IterationCounter) :
    Spares (spin start budget rounds counter : Guest σ IterationCounter) := by
  induction rounds generalizing counter with
  | zero => exact .stop nofun
  | succ rounds ih =>
      refine readClock_spares.bind fun now => ?_
      split
      · exact .pure counter
      · cases counter.tick with
        | error panic => exact .stop nofun
        | ok ticked =>
            obtain ⟨wrapped, counter⟩ := ticked
            cases wrapped with
            | true => exact (Spares.of_trades (Guest.log_trades _ _)).bind fun _ => ih counter
            | false => exact ih counter

theorem keepBusyWithLimit_spares (ms limit : Int32) :
    Spares (keepBusyWithLimit ms limit : Guest σ Int32) := by
  refine readClock_spares.bind fun start => ?_
  have hrounds : Spares (roundsFor ms : Guest σ Nat) :=
    .of_trades fun _ _ _ haccounts => ⟨_, _, rfl, haccounts⟩
  refine hrounds.bind fun rounds => (spin_spares start _ rounds _).bind fun counter => ?_
  exact (Spares.of_trades (Guest.log_trades _ _)).bind fun _ => .pure ms

end Sample

end GuestHost

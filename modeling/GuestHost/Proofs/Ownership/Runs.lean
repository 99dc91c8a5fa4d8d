import GuestHost.Proofs.Ownership.Steps

/-!
# Who owns what after any run

A run is a list of moves from a caller that holds nothing and a guest without any
block.  Each move is a step in a world of its own: the system may refuse whatever
requests it likes, and the host may be any.  After every run, each live block is
owned exactly once, by a slot or by an echo that overwrote it, the journal can be
replayed, and no step has touched a block that is not live.

`moveSound` is what one move preserves, by the kind of its step: one that keeps the
books, one that its host may stop, or an echo.  `InOrder.after` follows it through a
run, and `ownership_of_run` reads the result off the books.
-/

namespace GuestHost

variable {σ : Type}

/-- A step, and the world in which it is made. -/
structure Move (σ : Type) where
  world : World σ
  step : Step

namespace Caller

/-- A caller without slots, of a guest without blocks. -/
def initial (start : σ) : Caller σ :=
  ⟨[], .start Heap.empty start⟩

/-- What a move answers, and the state that it leaves. -/
def move (caller : Caller σ) (next : Move σ) : Except Refusal Reply × Caller σ :=
  next.step.run next.world caller

/-- The blocks that a move makes nobody's: an echo that is answered overwrites what
its destination owned. -/
def orphaned (caller : Caller σ) (next : Move σ) : List Address :=
  match (caller.move next).1 with
  | .ok _ => next.step.overwritten caller.slots
  | .error _ => []

/-- The state after a run. -/
def after (caller : Caller σ) : List (Move σ) → Caller σ
  | [] => caller
  | next :: moves => (caller.move next).2.after moves

/-- The blocks that a run makes nobody's. -/
def orphans (caller : Caller σ) : List (Move σ) → List Address
  | [] => []
  | next :: moves => (caller.move next).2.orphans moves ++ caller.orphaned next

end Caller

/-- The books are in order when some blocks are nobody's. -/
def InOrder (orphans : List Address) (caller : Caller σ) : Prop :=
  Books [] (orphans.map .raw) caller

/-! ## One move -/

/-- What is true after a move: the books are in order, and if the guest was stopped, then
by its host. -/
structure MoveSound (next : Move σ) (orphans : List Address)
    (outcome : Except Refusal Reply × Caller σ) : Prop where
  order : InOrder orphans outcome.2
  stopped : ∀ cause, outcome.1 = .error (.stopped cause) →
    next.step.mayPanic = true ∧ ∀ address, cause ≠ .misuse address

section Moves

variable {orphans : List Address} {caller : Caller σ} {next : Move σ}

/-- Only an echo can make a block nobody's. -/
theorem overwritten_eq_nil {step : Step} (slots : Slots)
    (hecho : ∀ message? result?, step ≠ .guestEcho message? result?) :
    step.overwritten slots = [] := by
  cases step with
  | guestEcho message? result? => exact absurd rfl (hecho message? result?)
  | _ => rfl

theorem moveSound_of_keepsBooks (hkeeps : next.step.KeepsBooks σ)
    (horder : InOrder orphans caller) : MoveSound next orphans (caller.move next) := by
  rcases hkeeps (orphans.map .raw) next.world horder with ⟨reply, left, hrun, hbooks⟩ |
      ⟨refusal, left, hrun, hbooks, hcause⟩
  · rw [Caller.move, hrun]
    exact ⟨hbooks, nofun⟩
  · rw [Caller.move, hrun]
    exact ⟨hbooks, fun cause hstopped => absurd (Except.error.inj hstopped) (hcause cause)⟩

/-- A host that panics stops the guest, but no block is lost to it. -/
theorem moveSound_of_spares {α : Type} {computation : Guest σ α} {reply : α → Reply}
    (hspares : Spares computation) (hpanic : next.step.mayPanic = true)
    (hrun : next.step.run = (do return reply (← Session.call computation) : Session σ Reply))
    (horder : InOrder orphans caller) : MoveSound next orphans (caller.move next) := by
  obtain ⟨haccounts, hmisuse⟩ := hspares next.world horder.accounts
  rw [Caller.move, hrun, Attempt.bind_apply, Session.call]
  rcases hend : computation next.world caller.machine with ⟨outcome, machine⟩
  rw [hend] at haccounts hmisuse
  cases outcome with
  | ok value =>
      refine ⟨⟨horder.distinct, haccounts⟩, fun other hstopped => ?_⟩
      cases hstopped
  | error cause =>
      refine ⟨⟨horder.distinct, haccounts⟩, fun other hstopped => ⟨hpanic, ?_⟩⟩
      intro address hother
      refine hmisuse address ?_
      rw [Refusal.stopped.inj (Except.error.inj hstopped), hother]

theorem moveSound_guestEcho {message? result? : Option String}
    (hstep : next.step = .guestEcho message? result?) (horder : InOrder orphans caller) :
    MoveSound next (caller.orphaned next ++ orphans) (caller.move next) := by
  have hbooks := Step.guestEcho_books next.world horder message? result?
  rw [← hstep] at hbooks
  rcases hbooks with ⟨left, ⟨reply, hrun⟩, hbooks⟩ | ⟨slot, hrun⟩
  · have hmove : caller.move next = (.ok reply, left) := hrun
    rw [Caller.orphaned, hmove]
    refine ⟨?_, nofun⟩
    rw [← List.map_append] at hbooks
    exact hbooks
  · have hmove : caller.move next = (.error (.badSlot slot), caller) := hrun
    rw [Caller.orphaned, hmove]
    exact ⟨horder, nofun⟩

/-- A move keeps the books in order, with the blocks added that it makes nobody's. -/
theorem moveSound (horder : InOrder orphans caller) (next : Move σ) :
    MoveSound next (caller.orphaned next ++ orphans) (caller.move next) := by
  by_cases hecho : ∃ message? result?, next.step = .guestEcho message? result?
  · obtain ⟨message?, result?, hstep⟩ := hecho
    exact moveSound_guestEcho hstep horder
  · have hecho : ∀ message? result?, next.step ≠ .guestEcho message? result? :=
      fun message? result? hstep => hecho ⟨message?, result?, hstep⟩
    -- any other step makes no block nobody's
    have hnone : caller.orphaned next = [] := by
      unfold Caller.orphaned
      split
      · exact overwritten_eq_nil caller.slots hecho
      · rfl
    rw [hnone, List.nil_append]
    cases hpanic : next.step.mayPanic with
    | false => exact moveSound_of_keepsBooks (next.step.keepsBooks hecho hpanic) horder
    | true =>
        obtain ⟨world, step⟩ := next
        cases step with
        | callHostFunction argument =>
            exact moveSound_of_spares (Sample.callHostFunction_spares argument) rfl rfl horder
        | keepBusy ms =>
            exact moveSound_of_spares (Sample.keepBusyWithLimit_spares ms _) rfl rfl horder
        | _ => cases hpanic

end Moves

/-! ## A whole run -/

theorem inOrder_initial (start : σ) : InOrder [] (Caller.initial start) :=
  ⟨List.nodup_nil, Accounts.initial start⟩

/-- By induction on the run: every move adds the blocks that it makes nobody's. -/
theorem InOrder.after {lost : List Address} {caller : Caller σ} (horder : InOrder lost caller)
    (moves : List (Move σ)) : InOrder (caller.orphans moves ++ lost) (caller.after moves) := by
  induction moves generalizing caller lost with
  | nil => exact horder
  | cons next moves ih =>
      have hmoved := ih (moveSound horder next).order
      rw [← List.append_assoc] at hmoved
      exact hmoved

/-- The live blocks, when the books are in order: those that the slots own and those
that are nobody's. -/
theorem InOrder.live {lost : List Address} {caller : Caller σ} (horder : InOrder lost caller) :
    caller.machine.heap.live.Perm
      (caller.slots.flatMap (fun slot => slot.2.addresses) ++ lost) := by
  have hlost : (lost.map Holding.raw).flatMap Holding.addresses = lost := by
    -- what is nobody's is accounted for, so it is not the null pointer
    have hfits : ∀ address ∈ lost, (Holding.raw address).addresses = [address] := by
      intro address hmem
      have hheld : Holding.raw address ∈ lost.map .raw ++ caller.slots.held [] :=
        List.mem_append_left _ (List.mem_map_of_mem hmem)
      cases horder.accounts.fits (.raw address) hheld with
      | block block _ hnull _ => exact Holding.addresses_of_ne hnull
    rw [List.flatMap_map]
    calc lost.flatMap (fun address => (Holding.raw address).addresses)
        = lost.flatMap (fun address => [address]) := by
          rw [List.flatMap_def, List.flatMap_def, List.map_congr_left hfits]
      _ = lost := List.flatMap_singleton' lost
  have hlive := horder.accounts.live
  rw [Slots.held_nil, List.flatMap_append, hlost, List.flatMap_map] at hlive
  exact hlive.trans List.perm_append_comm

/-- After any run, in whatever worlds its moves are made, the live blocks are those that
the slots own and those that echoes have overwritten, no block twice; every holding
describes its block; the journal can be replayed; and whatever step comes next, it is
stopped by a panic of the host at most, never by a block that is not live. -/
theorem ownership_of_run (start : σ) (moves : List (Move σ)) :
    let caller := (Caller.initial start).after moves
    let owned := caller.slots.flatMap (fun slot => slot.2.addresses) ++
      (Caller.initial start).orphans moves
    caller.machine.heap.live.Perm owned ∧ owned.Nodup ∧
      (∀ slot ∈ caller.slots, slot.2.Fits caller.machine.heap) ∧
      caller.machine.Replays ∧
      ∀ next cause, (caller.move next).1 = .error (.stopped cause) →
        next.step.mayPanic = true ∧ ∀ address, cause ≠ .misuse address := by
  intro caller owned
  have horder : InOrder ((Caller.initial start).orphans moves) caller := by
    have hafter := (inOrder_initial start).after moves
    rw [List.append_nil] at hafter
    exact hafter
  refine ⟨horder.live, horder.live.nodup_iff.mp caller.machine.heap.nodup, ?_,
    horder.accounts.replays, fun next cause => (moveSound horder next).stopped cause⟩
  intro slot hslot
  refine horder.accounts.fits slot.2 (List.mem_append_right _ ?_)
  rw [Slots.held_nil]
  exact List.mem_map_of_mem hslot

end GuestHost

import GuestHost.Guest.Scripted
import GuestHost.Proofs.Sample.BusyLoop
import GuestHost.Session.Run

/-!
# The busy loop and its readings

With a scripted clock the readings of a busy loop are those of the script, one after another,
whatever is printed in between (`Script.before_host`).  A script is given a round for each of
its readings (`Script.rounds_before`), so the rounds never run out before the script does:

* the loop stops at the first reading that is due (`Script.keepBusyWithLimit_run`);
* if none is, which is `Script.NoneDue`, the script comes to its end
  (`Script.keepBusyWithLimit_exhausts`);
* or the counter overflows before it does (`Script.keepBusyWithLimit_overflows`).

`busy_loop_stops_at_the_first_due_reading` says where the busy loop stops for any host, and for
any script.
-/

namespace GuestHost

open Sample Sample.IterationCounter

variable {ms limit : Int32} {world : World Script} {machine : Machine Script}
  {printAnswer bufferStatus : Int32} {i k : Nat}

/-! ## A scripted clock -/

/-- The readings of a script, and any where there is none. -/
def Script.times (script : Script) (i : Nat) : Int64 :=
  script.readings.getD i 0

/-- What a script answers after `i` readings. -/
theorem Script.clock_drop (readings : List Int64) (reads i : Nat) :
    (host printAnswer bufferStatus).clock ⟨readings.drop i, reads⟩ =
      (match readings[i]? with
        | some time => .ok time
        | none => .error .clockExhausted, ⟨readings.drop (i + 1), reads + 1⟩) := by
  rw [← List.head?_drop, ← List.tail_drop]
  cases readings.drop i <;> rfl

theorem Script.countsReadings :
    CountsReadings (host printAnswer bufferStatus) Script.clockReads where
  clock := by
    rintro ⟨readings, reads⟩
    cases readings <;> rfl
  print := fun _ _ => rfl

section

variable (hhost : world.host = Script.host printAnswer bufferStatus)
include hhost

/-- Printing does not touch a script, so each reading leaves the rest of it. -/
theorem Script.before_host (i : Nat) :
    (before world limit machine i).host =
      ⟨machine.host.readings.drop i, machine.host.clockReads + i⟩ := by
  induction i with
  | zero => rfl
  | succ i ih =>
      have hread : ((before world limit machine i).readTime world.host).host =
          ⟨machine.host.readings.drop (i + 1), machine.host.clockReads + (i + 1)⟩ := by
        rw [Machine.readTime, ih, hhost, Script.clock_drop]
        rfl
      rw [before]
      split
      · rw [Machine.say, hread, hhost]
        rfl
      · exact hread

theorem Script.reading_eq (i : Nat) :
    reading world limit machine i =
      match machine.host.readings[i]? with
      | some time => .ok time
      | none => .error .clockExhausted := by
  rw [reading, Script.before_host hhost, hhost, Script.clock_drop]

theorem Script.reading_of_lt (hlt : i < machine.host.readings.length) :
    reading world limit machine i = .ok (machine.host.times i) := by
  rw [Script.reading_eq hhost, Script.times, List.getD_eq_getElem?_getD,
    List.getElem?_eq_getElem hlt]
  rfl

theorem Script.reading_of_le (hle : machine.host.readings.length ≤ i) :
    reading world limit machine i = .error .clockExhausted := by
  rw [Script.reading_eq hhost, List.getElem?_eq_none hle]

end

/-! ## A script for the whole loop -/

/-- A script has come to its end without any reading that is due. -/
def Script.NoneDue (ms : Int32) (script : Script) : Prop :=
  Running ms script.times script.readings.length

section

variable (hhost : world.host = Script.host printAnswer bufferStatus)
  (hrounds : world.rounds = Script.rounds)
include hhost hrounds

/-- Behind the first reading there are as many rounds as readings left, and one more. -/
theorem Script.rounds_before :
    world.rounds (before world limit machine 1).host ms =
      machine.host.readings.length - 1 + 1 := by
  rw [hrounds, Script.before_host hhost, Script.rounds, List.length_drop]

theorem Script.keepBusyWithLimit_run (hlt : k < machine.host.readings.length)
    (hfirst : FirstDue ms machine.host.times k) (hwraps : (k - 1) / period limit < 2 ^ 32) :
    keepBusyWithLimit ms limit world machine =
      (.ok ms, ((before world limit machine k).readTime world.host).say world.host
        (summaryLine ms ((k - 1) % period limit) ((k - 1) / period limit))) := by
  refine Sample.keepBusyWithLimit_run (fun j hle => ?_) hfirst hwraps ?_
  · exact Script.reading_of_lt hhost (Nat.lt_of_le_of_lt hle hlt)
  · rw [Script.rounds_before hhost hrounds]
    omega

/-- A script without a reading that is due is read to its end, and once more. -/
theorem Script.keepBusyWithLimit_exhausts (hnone : machine.host.NoneDue ms)
    (hwraps : (machine.host.readings.length - 1) / period limit < 2 ^ 32) :
    ∃ after, keepBusyWithLimit ms limit world machine = (.error (.panic .clockExhausted), after) ∧
      after.host = ⟨[], machine.host.clockReads + (machine.host.readings.length + 1)⟩ := by
  have hhostAfter : ((before world limit machine machine.host.readings.length).readTime
      world.host).host = ⟨[], machine.host.clockReads + (machine.host.readings.length + 1)⟩ := by
    rw [Machine.readTime, Script.before_host hhost, hhost, Script.clock_drop, List.drop_eq_nil_of_le
      (Nat.le_succ _)]
    rfl
  refine ⟨_, ?_, hhostAfter⟩
  have hfails : reading world limit machine machine.host.readings.length =
      .error .clockExhausted := Script.reading_of_le hhost (Nat.le_refl _)
  -- a script with no reading at all fails before the loop, any other one within it
  rcases hlength : machine.host.readings.length with - | k
  · rw [hlength] at hfails
    exact Attempt.bind_of_error (Guest.readClock_run_panic hfails)
  · rw [hlength] at hfails hwraps
    have hrunning : Running ms machine.host.times (k + 1) := hlength ▸ hnone
    refine keepBusyWithLimit_panics (fun j hle => ?_) hrunning hwraps hfails ?_
    · exact Script.reading_of_lt hhost (by omega)
    · rw [Script.rounds_before hhost hrounds, hlength]
      omega

theorem Script.keepBusyWithLimit_overflows (hnone : machine.host.NoneDue ms)
    (hwraps : 2 ^ 32 ≤ (machine.host.readings.length - 1) / period limit) :
    (keepBusyWithLimit ms limit world machine).1 = .error (.panic .additionOverflow) := by
  have hlong : 2 ^ 32 * period limit ≤ machine.host.readings.length - 1 :=
    (Nat.le_div_iff_mul_le (period_pos limit)).mp hwraps
  have hpos : 0 < 2 ^ 32 * period limit := Nat.mul_pos (Nat.two_pow_pos 32) (period_pos limit)
  have hreads : ∀ j ≤ 2 ^ 32 * period limit,
      reading world limit machine j = .ok (machine.host.times j) :=
    fun j hle => Script.reading_of_lt hhost (by omega)
  refine Sample.keepBusyWithLimit_overflows hreads (fun j hj hlt => hnone j hj ?_) ?_
  · omega
  · rw [Script.rounds_before hhost hrounds]
    omega

end

/-- No script makes the loop come back that has no reading that is due. -/
theorem Script.keepBusyWithLimit_ne_ok (hhost : world.host = Script.host printAnswer bufferStatus)
    (hnone : machine.host.NoneDue ms) (answer : Int32) (after : Machine Script) :
    keepBusyWithLimit ms limit world machine ≠ (.ok answer, after) := by
  intro hends
  obtain ⟨k, times, hreads, hfirst, -⟩ := exists_firstDue_of_keepBusyWithLimit hends
  -- the readings that there have been are those of the script, and the last of them was due
  have hlength : ∀ j ≤ k, j < machine.host.readings.length := by
    intro j hle
    apply Decidable.byContradiction
    intro hlate
    have hread := hreads j hle
    rw [Script.reading_of_le hhost (Nat.le_of_not_lt hlate)] at hread
    cases hread
  have htimes : ∀ j ≤ k, times j = machine.host.times j := by
    intro j hle
    have hread := hreads j hle
    rw [Script.reading_of_lt hhost (hlength j hle)] at hread
    exact (Except.ok.inj hread).symm
  have hdue := hfirst.due
  rw [htimes 0 (Nat.zero_le k), htimes k (Nat.le_refl k)] at hdue
  exact hnone k hfirst.pos (hlength k (Nat.le_refl k)) hdue

/-! ## Where the loop stops -/

/-- Whatever the host, its clock and the limit, the busy loop stops at the first reading that
is due, if it is given rounds enough and the wraps fit into a word until then.  It has read
the clock that often and has printed exactly the warnings and the summary.  It does not come
back otherwise, however many rounds it is given.  By a script it is given rounds enough, and
a script without a reading that is due is read to its end, unless the wraps overflow first.
The exported loop is the one with the largest limit there is. -/
theorem busy_loop_stops_at_the_first_due_reading (ms limit : Int32) :
    (∀ (σ : Type) (world : World σ) (machine : Machine σ),
      (∀ (times : Nat → Int64) (k : Nat),
        (∀ j ≤ k, reading world limit machine j = .ok (times j)) → FirstDue ms times k →
        (k - 1) / period limit < 2 ^ 32 →
        k ≤ world.rounds (before world limit machine 1).host ms →
        ∃ after, keepBusyWithLimit ms limit world machine = (.ok ms, after) ∧
          Stopped world limit machine ms k after) ∧
      (∀ answer after, keepBusyWithLimit ms limit world machine = (.ok answer, after) →
        ∃ k times, (∀ j ≤ k, reading world limit machine j = .ok (times j)) ∧
          FirstDue ms times k ∧ (k - 1) / period limit < 2 ^ 32)) ∧
    (∀ (system : SystemAllocator) (printAnswer bufferStatus : Int32) (machine : Machine Script),
      let world : World Script :=
        ⟨system, Script.host printAnswer bufferStatus, Script.rounds⟩
      let length := machine.host.readings.length
      (∀ k < length, FirstDue ms machine.host.times k → (k - 1) / period limit < 2 ^ 32 →
        ∃ after, keepBusyWithLimit ms limit world machine = (.ok ms, after) ∧
          Stopped world limit machine ms k after) ∧
      (machine.host.NoneDue ms →
        (∀ answer after, keepBusyWithLimit ms limit world machine ≠ (.ok answer, after)) ∧
        ((length - 1) / period limit < 2 ^ 32 →
          ∃ after, keepBusyWithLimit ms limit world machine =
              (.error (.panic .clockExhausted), after) ∧
            after.host = ⟨[], machine.host.clockReads + (length + 1)⟩) ∧
        (2 ^ 32 ≤ (length - 1) / period limit →
          (keepBusyWithLimit ms limit world machine).1 = .error (.panic .additionOverflow)))) ∧
    ∀ (σ : Type) (world : World σ) (machine : Machine σ),
      keepBusy ms world machine = keepBusyWithLimit ms Int32.maxValue world machine := by
  refine ⟨fun σ world machine => ⟨?_, ?_⟩, ?_, fun _ _ _ => rfl⟩
  · intro times k hreads hfirst hwraps hrounds
    exact ⟨_, keepBusyWithLimit_run hreads hfirst hwraps hrounds, stopped_readTime hfirst.pos⟩
  · intro answer after hends
    exact exists_firstDue_of_keepBusyWithLimit hends
  · intro system printAnswer bufferStatus machine world length
    have hhost : world.host = Script.host printAnswer bufferStatus := rfl
    have hrounds : world.rounds = Script.rounds := rfl
    refine ⟨fun k hlt hfirst hwraps => ?_, fun hnone => ⟨?_, ?_, ?_⟩⟩
    · exact ⟨_, Script.keepBusyWithLimit_run hhost hrounds hlt hfirst hwraps,
        stopped_readTime hfirst.pos⟩
    · exact Script.keepBusyWithLimit_ne_ok hhost hnone
    · exact Script.keepBusyWithLimit_exhausts hhost hrounds hnone
    · exact Script.keepBusyWithLimit_overflows hhost hrounds hnone

/-- A clock that goes back is waited for: of its readings 5, 3, -10 and 2000 the last one is
the first that is due.  The counter has started again then, after two rounds.  If the script
ends before that, so does the loop. -/
theorem busy_loop_stops_under_a_clock_that_goes_back :
    let world : World Script := ⟨SystemAllocator.refusing none, Script.host 0 0, Script.rounds⟩
    let machine : Machine Script := .start Heap.empty ⟨[5, 3, -10, 2000], 0⟩
    let short : Machine Script := .start Heap.empty ⟨[5, 3, -10], 0⟩
    FirstDue 1 machine.host.times 3 ∧ short.host.NoneDue 1 ∧
    (∃ after, keepBusyWithLimit 1 2 world machine = (.ok 1, after) ∧
      after.journal = [.printed (summaryLine 1 0 1), .printed warningLine] ∧
      after.host.clockReads = 4) ∧
    ∃ after, keepBusyWithLimit 1 2 world short = (.error (.panic .clockExhausted), after) ∧
      after.host = ⟨[], 4⟩ := by
  intro world machine short
  have hrunning : Running 1 machine.host.times 3 := by
    intro j hj hlt
    have hj : j = 1 ∨ j = 2 := by omega
    rcases hj with rfl | rfl <;> decide
  have hfirst : FirstDue 1 machine.host.times 3 := ⟨by decide, by decide, hrunning⟩
  have hnone : short.host.NoneDue 1 := by
    intro j hj hlt
    have hlt : j < 3 := hlt
    have hj : j = 1 ∨ j = 2 := by omega
    rcases hj with rfl | rfl <;> decide
  obtain ⟨-, hscripts, -⟩ := busy_loop_stops_at_the_first_due_reading 1 2
  obtain ⟨hstops, -⟩ := hscripts (SystemAllocator.refusing none) 0 0 machine
  obtain ⟨-, hends⟩ := hscripts (SystemAllocator.refusing none) 0 0 short
  obtain ⟨after, hrun, hstopped⟩ := hstops 3 (by decide) hfirst (by decide)
  obtain ⟨-, hexhausts, -⟩ := hends hnone
  exact ⟨hfirst, hnone, ⟨after, hrun, hstopped.journal, hstopped.readings _ Script.countsReadings⟩,
    hexhausts (by decide)⟩

end GuestHost

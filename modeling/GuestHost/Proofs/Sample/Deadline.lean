import GuestHost.Guest.Recording
import GuestHost.Proofs.Sample.Stopping
import Mathlib.Data.Rat.Floor

/-!
# The busy loop ends

No measure of the busy loop goes down by itself; it is the clock that brings it to an end.  A
clock that `Advances` between any two readings advances by a microsecond at least, so a reading
is due after as many of them as there are microseconds to wait for (`Advances.exists_firstDue`).
That is few enough for the counter: with the largest limit there is, it starts again less than
a thousand times until then (`div_period_maxValue_lt`), and nothing overflows.

The clock of a recording host advances by the same step each time (`Recording.before_host`).
So the reading that is due can be computed: `Recording.stepsFor` is the least number of steps
that lead to it, and `Recording.firstDue` says that no earlier reading is due.
-/

namespace GuestHost

open Sample Sample.IterationCounter

variable {σ : Type} {ms limit : Int32} {world : World σ} {machine : Machine σ}
  {times : Nat → Int64} {i j k : Nat}

/-! ## Clocks that advance -/

namespace Sample

theorem Running.of_le (hrunning : Running ms times k) (hle : j ≤ k) : Running ms times j :=
  fun i hi hlt => hrunning i hi (Nat.lt_of_lt_of_le hlt hle)

/-- As long as no reading is due, each reading is later than the one before. -/
def Advances (ms : Int32) (times : Nat → Int64) : Prop :=
  ∀ i, Running ms times (i + 1) → (times i).toInt < (times (i + 1)).toInt

/-- By induction on the readings: a microsecond has passed for each of them. -/
theorem Advances.add_le (hadvances : Advances ms times) (hrunning : Running ms times i) :
    (times 0).toInt + i ≤ (times i).toInt := by
  induction i with
  | zero => simp
  | succ i ih =>
      have hstep := hadvances i hrunning
      have hbefore := ih (hrunning.of_le (Nat.le_succ i))
      push_cast
      omega

/-- A reading is due after as many readings as there are microseconds to wait for. -/
theorem Advances.exists_firstDue (hadvances : Advances ms times) :
    ∃ k ≤ (max 1 (1000 * ms.toInt)).toNat, FirstDue ms times k := by
  have hlast : Running ms times (max 1 (1000 * ms.toInt)).toNat →
      Due ms (times 0) (times (max 1 (1000 * ms.toInt)).toNat) := by
    intro hrunning
    have hle := hadvances.add_le hrunning
    unfold Due
    omega
  -- if no reading were due, then none would be before the last one counted, which is
  have hexists : ∃ k, 0 < k ∧ Due ms (times 0) (times k) := by
    by_contra hnone
    refine hnone ⟨_, by omega, hlast fun j hj _ hdue => hnone ⟨j, hj, hdue⟩⟩
  have hrunning : Running ms times (Nat.find hexists) :=
    fun j hj hlt hdue => Nat.find_min hexists hlt ⟨hj, hdue⟩
  refine ⟨Nat.find hexists, ?_, (Nat.find_spec hexists).1, (Nat.find_spec hexists).2, hrunning⟩
  rcases Nat.lt_or_ge (max 1 (1000 * ms.toInt)).toNat (Nat.find hexists) with hlt | hge
  · exact Nat.find_min' hexists ⟨by omega, hlast (hrunning.of_le hlt.le)⟩
  · exact hge

/-- The counter starts again less than a thousand times. -/
theorem div_period_maxValue_lt (ms : Int32) (hlt : i < (max 1 (1000 * ms.toInt)).toNat) :
    i / period Int32.maxValue < 1000 := by
  have hperiod : period Int32.maxValue = 2147483647 := by decide
  have hms := ms.toInt_lt
  rw [hperiod]
  omega

/-- Until then the count and the wraps have room for one more. -/
theorem run_new_maxValue (hlt : i < (max 1 (1000 * ms.toInt)).toNat) :
    ∃ counter, IterationCounter.run i 0 (new Int32.maxValue) =
        .ok (i / period Int32.maxValue, counter) ∧
      counter.count.toInt + 1 ≤ Int32.maxValue.toInt ∧ counter.wraps.toNat + 1 < 2 ^ 32 := by
  have hwraps := div_period_maxValue_lt ms hlt
  have hfits : (0 + i) / period Int32.maxValue < 2 ^ 32 := by
    rw [Nat.zero_add]
    omega
  obtain ⟨counter, hrun, hcounted⟩ := run_counted (new_counted Int32.maxValue) hfits
  rw [Nat.zero_div, Nat.zero_add] at hrun
  rw [Nat.zero_add] at hcounted
  refine ⟨counter, hrun, hcounted.count_lt_maxValue, ?_⟩
  rw [hcounted.wraps_toNat]
  omega

end Sample

/-! ## The clock of a recording host -/

/-- The number of steps that a clock needs to get `distance` further, which is one at least. -/
def Recording.stepsFor (distance step : Int) : Int :=
  max 1 ⌈(distance : ℚ) / step⌉

theorem Recording.stepsFor_le_iff {distance step count : Int} (hstep : 0 < step) :
    stepsFor distance step ≤ count ↔ 1 ≤ count ∧ distance ≤ count * step := by
  have hrational : (0 : ℚ) < step := by exact_mod_cast hstep
  rw [stepsFor, max_le_iff, Int.ceil_le, div_le_iff₀ hrational]
  norm_cast

/-- A step is one microsecond at least. -/
theorem Recording.stepsFor_le (distance : Int) {step : Int} (hstep : 0 < step) :
    stepsFor distance step ≤ max 1 distance := by
  refine (stepsFor_le_iff hstep).mpr ⟨le_max_left 1 distance, ?_⟩
  calc distance
      ≤ max 1 distance := le_max_right 1 distance
    _ = max 1 distance * 1 := (mul_one _).symm
    _ ≤ max 1 distance * step := mul_le_mul_of_nonneg_left hstep (by omega)

/-- A sum that is in range. -/
theorem Recording.addTime_of_le {a b : Int64} (hlower : Int64.minValue.toInt ≤ a.toInt + b.toInt)
    (hupper : a.toInt + b.toInt ≤ Int64.maxValue.toInt) :
    ∃ sum, addTime a b = .ok sum ∧ sum.toInt = a.toInt + b.toInt := by
  have hmin : Int64.minValue.toInt = -2 ^ 63 := rfl
  have hmax : Int64.maxValue.toInt = 2 ^ 63 - 1 := rfl
  refine ⟨Int64.ofInt (a.toInt + b.toInt), ?_, Int64.toInt_ofInt_of_le (by omega) (by omega)⟩
  exact if_pos ⟨hlower, hupper⟩

section

variable {world : World Recording} {machine : Machine Recording} {step : Int64}
  {bufferStatus : Int32}

/-- Printing does not touch the clock. -/
theorem Recording.before_succ (limit : Int32) (machine : Machine Recording)
    (hhost : world.host = Recording.host step bufferStatus) (i : Nat) :
    (before world limit machine (i + 1)).host.now =
        ((before world limit machine i).readTime world.host).host.now ∧
      (before world limit machine (i + 1)).host.clockReads =
        ((before world limit machine i).readTime world.host).host.clockReads := by
  rw [before]
  split
  · rw [Machine.say, hhost]
    exact ⟨rfl, rfl⟩
  · exact ⟨rfl, rfl⟩

/-- A clock with room for a step more moves on by it. -/
theorem Recording.clock_run (hhost : world.host = Recording.host step bufferStatus)
    (hstep : 0 < step.toInt) (recording : Recording)
    (hroom : recording.now.toInt + step.toInt ≤ Int64.maxValue.toInt) :
    (world.host.clock recording).1 = .ok recording.now ∧
      (world.host.clock recording).2.now.toInt = recording.now.toInt + step.toInt ∧
      (world.host.clock recording).2.clockReads = recording.clockReads + 1 := by
  have hmin : Int64.minValue.toInt = -2 ^ 63 := rfl
  have hle := recording.now.le_toInt
  have hlower : Int64.minValue.toInt ≤ recording.now.toInt + step.toInt := by omega
  obtain ⟨sum, hadd, hsum⟩ := Recording.addTime_of_le hlower hroom
  have hclock : world.host.clock recording =
      (.ok recording.now,
        { recording with now := sum, clockReads := recording.clockReads + 1 }) := by
    rw [hhost]
    simp only [Recording.host, hadd]
  rw [hclock]
  exact ⟨rfl, hsum, rfl⟩

/-- By induction on the readings: the clock has moved on by a step for each of them. -/
theorem Recording.before_host (limit : Int32) (machine : Machine Recording)
    (hhost : world.host = Recording.host step bufferStatus) (hstep : 0 < step.toInt) (i : Nat)
    (hroom : machine.host.now.toInt + i * step.toInt ≤ Int64.maxValue.toInt) :
    (before world limit machine i).host.now.toInt = machine.host.now.toInt + i * step.toInt ∧
      (before world limit machine i).host.clockReads = machine.host.clockReads + i := by
  induction i with
  | zero => exact ⟨by simp [before], rfl⟩
  | succ i ih =>
      rw [Nat.cast_succ, add_one_mul] at hroom ⊢
      obtain ⟨hnow, hreads⟩ := ih (by omega)
      obtain ⟨-, hnext, hcounted⟩ := Recording.clock_run hhost hstep
        (before world limit machine i).host (by omega)
      obtain ⟨hnowSucc, hreadsSucc⟩ := Recording.before_succ limit machine hhost i
      rw [hnowSucc, hreadsSucc, Machine.readTime, hnext, hcounted, hnow, hreads]
      omega

/-- The time of a reading, if there is room for the step behind it. -/
theorem Recording.reading_eq (hhost : world.host = Recording.host step bufferStatus)
    (hstep : 0 < step.toInt)
    (hroom : machine.host.now.toInt + (i + 1 : Nat) * step.toInt ≤ Int64.maxValue.toInt) :
    reading world limit machine i =
      .ok (Int64.ofInt (machine.host.now.toInt + i * step.toInt)) := by
  rw [Nat.cast_succ, add_one_mul] at hroom
  have hnow := (Recording.before_host limit machine hhost hstep i (by omega)).1
  obtain ⟨hclock, -, -⟩ := Recording.clock_run hhost hstep
    (before world limit machine i).host (by omega)
  rw [reading, hclock, ← hnow, Int64.ofInt_toInt]

end

/-- The first reading that is due is the first one that enough steps lead to. -/
theorem Recording.firstDue {step start : Int64} (hstep : 0 < step.toInt)
    (hk : (k : Int) = Recording.stepsFor (1000 * ms.toInt) step.toInt)
    (hroom : start.toInt + k * step.toInt ≤ Int64.maxValue.toInt) :
    FirstDue ms (fun i => Int64.ofInt (start.toInt + i * step.toInt)) k := by
  have hmax : Int64.maxValue.toInt = 2 ^ 63 - 1 := rfl
  have hstart := start.le_toInt
  -- up to the reading looked for, the words stand for the sums themselves
  have htime : ∀ i ≤ k,
      (Int64.ofInt (start.toInt + i * step.toInt)).toInt = start.toInt + i * step.toInt := by
    intro i hle
    have hnonneg : 0 ≤ (i : Int) * step.toInt := by positivity
    have hbelow : (i : Int) * step.toInt ≤ k * step.toInt :=
      Int.mul_le_mul_of_nonneg_right (by exact_mod_cast hle) hstep.le
    exact Int64.toInt_ofInt_of_le (by omega) (by omega)
  have hdue : ∀ i ≤ k, Due ms (Int64.ofInt (start.toInt + (0 : Nat) * step.toInt))
      (Int64.ofInt (start.toInt + i * step.toInt)) ↔ 1000 * ms.toInt ≤ i * step.toInt := by
    intro i hle
    rw [Due, htime i hle, htime 0 (Nat.zero_le k)]
    push_cast
    omega
  -- a reading before it would be fewer steps than are needed
  obtain ⟨hpos, henough⟩ := (Recording.stepsFor_le_iff hstep).mp (Int.le_of_eq hk.symm)
  refine ⟨by omega, (hdue k (Nat.le_refl k)).mpr henough, fun j hj hlt hearly => ?_⟩
  have hfewer : Recording.stepsFor (1000 * ms.toInt) step.toInt ≤ j :=
    (Recording.stepsFor_le_iff hstep).mpr ⟨by omega, (hdue j hlt.le).mp hearly⟩
  omega

/-- The rounds that a recording host gives are enough. -/
theorem Recording.le_rounds {step : Int64} (hstep : 0 < step.toInt) (recording : Recording)
    (hk : (k : Int) = Recording.stepsFor (1000 * ms.toInt) step.toInt) :
    k ≤ Recording.rounds step recording ms := by
  have hless := Int.lt_ediv_add_one_mul_self (ms.toInt * 1000) hstep
  have hmore : (ms.toInt * 1000 / step.toInt + 1) * step.toInt ≤
      (((ms.toInt * 1000 / step.toInt).toNat + 2 : Nat) : Int) * step.toInt :=
    Int.mul_le_mul_of_nonneg_right (by omega) hstep.le
  have hsteps : Recording.stepsFor (1000 * ms.toInt) step.toInt ≤
      ((ms.toInt * 1000 / step.toInt).toNat + 2 : Nat) :=
    (Recording.stepsFor_le_iff hstep).mpr ⟨by omega, by omega⟩
  simp only [Recording.rounds, if_pos hstep]
  omega

/-- With a recording host the loop reads the clock once for each step that the clock needs,
and once more. -/
theorem Recording.keepBusyWithLimit_run {world : World Recording} {machine : Machine Recording}
    {step : Int64} {bufferStatus : Int32}
    (hhost : world.host = Recording.host step bufferStatus)
    (hrounds : world.rounds = Recording.rounds step) (hstep : 0 < step.toInt)
    (hk : (k : Int) = Recording.stepsFor (1000 * ms.toInt) step.toInt)
    (hwraps : (k - 1) / period limit < 2 ^ 32)
    (hroom : machine.host.now.toInt + (k + 1 : Nat) * step.toInt ≤ Int64.maxValue.toInt) :
    ∃ after, keepBusyWithLimit ms limit world machine = (.ok ms, after) ∧
      after.host.clockReads = machine.host.clockReads + (k + 1) ∧
      after.host.now.toInt = machine.host.now.toInt + (k + 1 : Nat) * step.toInt := by
  have hless : ∀ i ≤ k + 1, machine.host.now.toInt + (i : Nat) * step.toInt ≤
      Int64.maxValue.toInt := by
    intro i hle
    have hbelow : (i : Int) * step.toInt ≤ (k + 1 : Nat) * step.toInt :=
      Int.mul_le_mul_of_nonneg_right (by exact_mod_cast hle) hstep.le
    omega
  have hreads : ∀ j ≤ k, reading world limit machine j =
      .ok (Int64.ofInt (machine.host.now.toInt + j * step.toInt)) :=
    fun j hle => Recording.reading_eq hhost hstep (hless _ (Nat.succ_le_succ hle))
  have hfirst := Recording.firstDue hstep hk (hless k (Nat.le_succ k))
  have hgiven : k ≤ world.rounds (before world limit machine 1).host ms := by
    rw [hrounds]
    exact Recording.le_rounds hstep _ hk
  -- the summary is printed behind the last reading, and leaves the clock alone
  have hafter := Recording.before_host limit machine hhost hstep (k + 1) hroom
  obtain ⟨hnow, hcounted⟩ := Recording.before_succ limit machine hhost k
  refine ⟨_, Sample.keepBusyWithLimit_run hreads hfirst hwraps hgiven, ?_, ?_⟩
  · rw [← hafter.2, hcounted, Machine.say, hhost]
    rfl
  · rw [← hafter.1, hnow, Machine.say, hhost]
    rfl

/-! ## The end of the loop -/

/-- The exported busy loop ends under any clock that advances as long as the loop goes on, if
it is given as many rounds as there are microseconds to wait for: it has read the clock once
more than that at most, and no sum in it has overflowed, neither in the budget nor in the
counter of any round.  By the clock of a recording host it is given rounds enough, and the
number of its readings is that of the steps that the clock needs, and one more. -/
theorem busy_loop_ends_under_an_advancing_clock (ms : Int32) :
    (∀ (σ : Type) (world : World σ) (machine : Machine σ) (times : Nat → Int64),
      (∀ i, Running ms times i → reading world Int32.maxValue machine i = .ok (times i)) →
      Advances ms times →
      (max 1 (1000 * ms.toInt)).toNat ≤
        world.rounds (before world Int32.maxValue machine 1).host ms →
      ∃ (k : Nat) (after : Machine σ), 0 < k ∧ (k : Int) + 1 ≤ 1 + max 1 (1000 * ms.toInt) ∧
        keepBusy ms world machine = (.ok ms, after) ∧
        Stopped world Int32.maxValue machine ms k after ∧
        (Int64.ofInt (ms.toInt * 1000)).toInt = ms.toInt * 1000 ∧
        ∀ i < k, ∃ counter, IterationCounter.run i 0 (new Int32.maxValue) =
            .ok (i / period Int32.maxValue, counter) ∧
          counter.count.toInt + 1 ≤ Int32.maxValue.toInt ∧
          counter.wraps.toNat + 1 < 2 ^ 32) ∧
    ∀ (system : SystemAllocator) (step : Int64) (bufferStatus : Int32)
      (machine : Machine Recording),
      let world : World Recording :=
        ⟨system, Recording.host step bufferStatus, Recording.rounds step⟩
      let readings : Int := 1 + Recording.stepsFor (1000 * ms.toInt) step.toInt
      1 ≤ step.toInt →
      machine.host.now.toInt + readings * step.toInt ≤ Int64.maxValue.toInt →
      ∃ after, keepBusy ms world machine = (.ok ms, after) ∧
        (after.host.clockReads : Int) = machine.host.clockReads + readings ∧
        after.host.now.toInt = machine.host.now.toInt + readings * step.toInt := by
  refine ⟨?_, ?_⟩
  · intro σ world machine times hreads hadvances hrounds
    obtain ⟨k, hle, hfirst⟩ := hadvances.exists_firstDue
    have hpos := hfirst.pos
    have hwraps := div_period_maxValue_lt ms (show k - 1 < _ by omega)
    have hrun := keepBusyWithLimit_run (fun j hj => hreads j (hfirst.running.of_le hj)) hfirst
      (Nat.lt_trans hwraps (by decide)) (Nat.le_trans hle hrounds)
    exact ⟨k, _, hpos, by omega, hrun, stopped_readTime hpos, toInt_budget ms,
      fun i hi => run_new_maxValue (Nat.lt_of_lt_of_le hi hle)⟩
  · intro system step bufferStatus machine world readings hstep hroom
    have hsteps := (Recording.stepsFor_le_iff hstep).mp
      (Int.le_refl (Recording.stepsFor (1000 * ms.toInt) step.toInt))
    obtain ⟨k, hk⟩ := Int.eq_ofNat_of_zero_le (Int.le_trans (by decide) hsteps.1)
    have hcount : ((k + 1 : Nat) : Int) = readings := by
      simp only [readings, hk]
      omega
    have hfew := Recording.stepsFor_le (1000 * ms.toInt) hstep
    have hwraps := div_period_maxValue_lt ms (show k - 1 < _ by omega)
    rw [← hcount] at hroom ⊢
    have hhost : world.host = Recording.host step bufferStatus := rfl
    obtain ⟨after, hrun, hreads, hnow⟩ := Recording.keepBusyWithLimit_run hhost rfl hstep hk.symm
      (Nat.lt_trans hwraps (by decide)) hroom
    exact ⟨after, hrun, by rw [hreads]; omega, hnow⟩

/-- A clock that jumps is waited for no longer than until it has jumped.  One that moves by
300 microseconds is read five times to wait for a millisecond, and stands at 1507 then if it
has stood at 7. -/
theorem busy_loop_ends_under_a_jump_and_under_steps :
    let jumping : World Script := ⟨SystemAllocator.refusing none, Script.host 0 0, fun _ _ => 1000⟩
    let script : Machine Script := .start Heap.empty ⟨[0, 1, 5000000], 0⟩
    let stepping : World Recording :=
      ⟨SystemAllocator.refusing none, Recording.host 300 0, Recording.rounds 300⟩
    let recording : Machine Recording := .start Heap.empty { now := 7 }
    (∀ i, Running 1 script.host.times i →
      reading jumping Int32.maxValue script i = .ok (script.host.times i)) ∧
    Advances 1 script.host.times ∧
    (∃ after, keepBusy 1 jumping script = (.ok 1, after) ∧ after.host.clockReads ≤ 1001) ∧
    ∃ after, keepBusy 1 stepping recording = (.ok 1, after) ∧ after.host.clockReads = 5 ∧
      after.host.now.toInt = 1507 := by
  intro jumping script stepping recording
  obtain ⟨hadvancing, hsteps⟩ := busy_loop_ends_under_an_advancing_clock 1
  -- the third reading is due, so no other one is made
  have hfew : ∀ i, Running 1 script.host.times i → i ≤ 2 := by
    intro i hrunning
    by_contra hmany
    exact hrunning 2 (by decide) (by omega) (by decide)
  have hreads : ∀ i, Running 1 script.host.times i →
      reading jumping Int32.maxValue script i = .ok (script.host.times i) :=
    fun i hrunning => Script.reading_of_lt rfl (Nat.lt_succ_of_le (hfew i hrunning))
  have hadvances : Advances 1 script.host.times := by
    intro i hrunning
    have hle := hfew _ hrunning
    have hi : i = 0 ∨ i = 1 := by omega
    rcases hi with rfl | rfl <;> decide
  obtain ⟨k, after, -, hle, hrun, hstopped, -⟩ :=
    hadvancing Script jumping script script.host.times hreads hadvances (by decide)
  have hcounted : after.host.clockReads = 0 + (k + 1) :=
    hstopped.readings _ Script.countsReadings
  have hbound : max 1 (1000 * (1 : Int32).toInt) = 1000 := by decide
  have hneeded : Recording.stepsFor (1000 * (1 : Int32).toInt) (300 : Int64).toInt = 4 := by
    have hstep : 0 < (300 : Int64).toInt := by decide
    have hfour : Recording.stepsFor (1000 * (1 : Int32).toInt) (300 : Int64).toInt ≤ 4 :=
      (Recording.stepsFor_le_iff hstep).mpr (by decide)
    have hthree : ¬ Recording.stepsFor (1000 * (1 : Int32).toInt) (300 : Int64).toInt ≤ 3 :=
      mt (Recording.stepsFor_le_iff hstep).mp (by decide)
    omega
  obtain ⟨last, hlast, hclock, hnow⟩ :=
    hsteps (SystemAllocator.refusing none) 300 0 recording (by decide) (by rw [hneeded]; decide)
  rw [hneeded] at hclock hnow
  exact ⟨hreads, hadvances, ⟨after, hrun, by omega⟩, last, hlast, by exact_mod_cast hclock, hnow⟩

end GuestHost

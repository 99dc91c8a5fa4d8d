import GuestHost.Proofs.Guest.Log
import GuestHost.Proofs.Sample.Counter

/-!
# Where the busy loop stops

The busy loop reads the clock once before it starts, and once in each round.  It stops at the
first of these later readings that is `Due`: the time that has passed since the first reading
is at least what it was told to wait, as an exact number of microseconds.  The clock may do
what it likes meanwhile, and printing may change what it does next, so the readings are those
of a host that is asked in this order: `before i` is the machine before reading `i`, and
`reading i` what it is told then.

The argument follows the rounds.  Before reading `i + 1` the counter has counted `i` rounds,
and a warning has been printed each time it started again; this is kept by a round that goes
on (`spin_goes_on`), and so by any number of them (`spin_skips`).  A round ends the loop for
one of three reasons: the reading is due, there is none, or the counter overflows.  That the
loop is given rounds enough is only needed to get there; whatever it is given, it does not
come back without a reading that is due (`exists_due_of_spin`).
-/

namespace GuestHost.Sample

open IterationCounter

/-! ## Time -/

/-- Enough time has passed between two readings of the clock. -/
def Due (ms : Int32) (start now : Int64) : Prop :=
  1000 * ms.toInt ≤ now.toInt - start.toInt

instance (ms : Int32) (start now : Int64) : Decidable (Due ms start now) :=
  inferInstanceAs (Decidable (_ ≤ _))

/-- None of the readings in between is due. -/
def Running (ms : Int32) (times : Nat → Int64) (i : Nat) : Prop :=
  ∀ j, 0 < j → j < i → ¬ Due ms (times 0) (times j)

/-- The first reading that is due. -/
structure FirstDue (ms : Int32) (times : Nat → Int64) (k : Nat) : Prop where
  pos : 0 < k
  due : Due ms (times 0) (times k)
  running : Running ms times k

/-- What the loop has to wait is computed without an overflow. -/
theorem toInt_budget (ms : Int32) : (Int64.ofInt (ms.toInt * 1000)).toInt = ms.toInt * 1000 := by
  have hle := ms.le_toInt
  have hlt := ms.toInt_lt
  exact Int64.toInt_ofInt_of_le (by omega) (by omega)

theorem toInt_elapsed (start now : Int64) :
    (elapsed start now).toInt =
      max Int64.minValue.toInt (min Int64.maxValue.toInt (now.toInt - start.toInt)) := by
  have hmin : Int64.minValue.toInt = -2 ^ 63 := rfl
  have hmax : Int64.maxValue.toInt = 2 ^ 63 - 1 := rfl
  exact Int64.toInt_ofInt_of_le (by omega) (by omega)

/-- A difference that is out of range stays on its side of the budget. -/
theorem budget_le_elapsed_iff {ms : Int32} {start now : Int64} :
    Int64.ofInt (ms.toInt * 1000) ≤ elapsed start now ↔ Due ms start now := by
  have hmin : Int64.minValue.toInt = -2 ^ 63 := rfl
  have hmax : Int64.maxValue.toInt = 2 ^ 63 - 1 := rfl
  have hle := ms.le_toInt
  have hlt := ms.toInt_lt
  rw [Int64.le_iff_toInt_le, toInt_budget, toInt_elapsed, Due]
  omega

/-! ## What is printed -/

/-- The line that says that the counter has started again. -/
def warningLine : Bytes :=
  Utf8.encode "[WARN] Reached int max - reset iteration counter\n"

/-- The line that sums a busy loop up. -/
def summaryLine (ms : Int32) (iterations wraps : Nat) : Bytes :=
  Utf8.encode ("[INFO] Kept CPU busy for " ++ toString ms.toInt ++ " ms using "
    ++ toString iterations ++ " iterations of fib(10) | wraps = " ++ toString wraps ++ "\n")

theorem logLine_wrapWarning : Guest.logLine .warn wrapWarning = warningLine :=
  Guest.logLine_of_notMem .warn (by decide +kernel)

theorem zero_notMem_busySummary (ms : Int32) (counter : IterationCounter) :
    '\x00' ∉ (busySummary ms counter).toList := by
  unfold busySummary
  refine zero_notMem_append (zero_notMem_append (zero_notMem_append (zero_notMem_append
    (zero_notMem_append (zero_notMem_append (zero_notMem_append ?_ ?_) ?_) ?_) ?_) ?_) ?_)
    (zero_notMem_natText _)
  · decide +kernel
  · exact zero_notMem_intText _
  · decide +kernel
  · exact zero_notMem_intText _
  · decide +kernel
  · exact zero_notMem_intText _
  · decide +kernel

variable {ms limit : Int32} {ticks : Nat} {counter : IterationCounter}

/-- The summary tells the remainder and the quotient of the rounds. -/
theorem logLine_busySummary (hcounted : Counted limit ticks counter) :
    Guest.logLine .info (busySummary ms counter) =
      summaryLine ms (ticks % period limit) (ticks / period limit) := by
  have hhead : "[INFO] Kept CPU busy for " = Level.info.tag ++ "Kept CPU busy for " := by decide
  -- the input of the recursion is printed as a number there and stands in the text here
  have hinput : " iterations of fib(10) | wraps = " =
      " iterations of fib(" ++ (toString Abi.busyLoopFibInput.toInt ++ ") | wraps = ") := by
    decide
  have hcount : toString counter.count.toInt = toString (ticks % period limit) := by
    rw [hcounted.count_toInt]
    rfl
  have hwraps : toString counter.wraps.toNat = toString (ticks / period limit) := by
    rw [hcounted.wraps_toNat]
  have hliteral : ∀ text : String, toString text = text := fun _ => rfl
  rw [Guest.logLine_of_notMem .info (zero_notMem_busySummary ms counter)]
  unfold summaryLine
  rw [← hcount, ← hwraps, hhead, hinput]
  unfold busySummary
  simp only [hliteral, String.append_assoc]

/-! ## The machine before each reading -/

variable {σ : Type} {world : World σ} {machine : Machine σ} {times : Nat → Int64} {i k : Nat}

/-- The machine before reading `i`, if the loop has gone on until then.  Reading zero is the
one before the loop; behind each other reading a round is counted. -/
def before (world : World σ) (limit : Int32) (machine : Machine σ) : Nat → Machine σ
  | 0 => machine
  | i + 1 =>
    let read := (before world limit machine i).readTime world.host
    if 0 < i ∧ period limit ∣ i then read.say world.host warningLine else read

/-- What the host is told to be the time at reading `i`. -/
def reading (world : World σ) (limit : Int32) (machine : Machine σ) (i : Nat) :
    Except Panic Int64 :=
  (world.host.clock (before world limit machine i).host).1

theorem before_succ_of_dvd (hdvd : period limit ∣ i + 1) :
    before world limit machine (i + 2) =
      ((before world limit machine (i + 1)).readTime world.host).say world.host warningLine := by
  rw [before, if_pos ⟨Nat.succ_pos i, hdvd⟩]

theorem before_succ_of_not_dvd (hdvd : ¬ period limit ∣ i + 1) :
    before world limit machine (i + 2) =
      (before world limit machine (i + 1)).readTime world.host := by
  rw [before, if_neg fun hwarns => hdvd hwarns.2]

/-- Waiting touches neither the heap nor the system. -/
theorem before_heap (i : Nat) :
    (before world limit machine i).heap = machine.heap ∧
      (before world limit machine i).requests = machine.requests := by
  induction i with
  | zero => exact ⟨rfl, rfl⟩
  | succ i ih =>
      rw [before]
      split <;> exact ih

/-- A warning has been printed each time that the period divided the number of rounds. -/
theorem before_journal (i : Nat) :
    (before world limit machine (i + 1)).journal =
      List.replicate (i / period limit) (.printed warningLine) ++ machine.journal := by
  induction i with
  | zero =>
      rw [Nat.zero_div]
      rfl
  | succ i ih =>
      by_cases hdvd : period limit ∣ i + 1
      · rw [before_succ_of_dvd hdvd, Nat.succ_div_of_dvd hdvd, List.replicate_succ,
          List.cons_append, ← ih]
        rfl
      · rw [before_succ_of_not_dvd hdvd, Nat.succ_div_of_not_dvd hdvd, ← ih]
        rfl

/-- A view of the host that counts the readings of its clock and nothing else. -/
structure CountsReadings (host : Host σ) (reads : σ → Nat) : Prop where
  clock : ∀ state, reads (host.clock state).2 = reads state + 1
  print : ∀ message state, reads (host.print message state).2 = reads state

theorem CountsReadings.before {reads : σ → Nat} (hcounts : CountsReadings world.host reads)
    (i : Nat) : reads (before world limit machine i).host = reads machine.host + i := by
  induction i with
  | zero => rfl
  | succ i ih =>
      have hread : reads ((Sample.before world limit machine i).readTime world.host).host =
          reads machine.host + (i + 1) := by
        rw [Machine.readTime, hcounts.clock, ih, Nat.add_assoc]
      rw [Sample.before]
      split
      · rw [Machine.say, hcounts.print, hread]
      · exact hread

/-! ## One round -/

variable {start now : Int64}

theorem spin_due (rounds : Nat) (counter : IterationCounter)
    (hread : reading world limit machine i = .ok now) (hdue : Due ms start now) :
    spin start (Int64.ofInt (ms.toInt * 1000)) (rounds + 1) counter world
        (before world limit machine i) =
      (.ok counter, (before world limit machine i).readTime world.host) := by
  rw [spin, Attempt.bind_of_ok (Guest.readClock_run hread), if_pos (budget_le_elapsed_iff.mpr hdue)]
  rfl

theorem spin_panics {budget : Int64} {cause : Panic} (rounds : Nat)
    (hread : reading world limit machine i = .error cause) :
    spin start budget (rounds + 1) counter world (before world limit machine i) =
      (.error (.panic cause), (before world limit machine i).readTime world.host) := by
  rw [spin, Attempt.bind_of_error (Guest.readClock_run_panic hread)]

theorem spin_overflows (rounds : Nat) (hcounted : Counted limit ticks counter)
    (hread : reading world limit machine i = .ok now) (hdue : ¬ Due ms start now)
    (hwraps : 2 ^ 32 ≤ (ticks + 1) / period limit) :
    spin start (Int64.ofInt (ms.toInt * 1000)) (rounds + 1) counter world
        (before world limit machine i) =
      (.error (.panic .additionOverflow), (before world limit machine i).readTime world.host) := by
  rw [spin, Attempt.bind_of_ok (Guest.readClock_run hread),
    if_neg (mt budget_le_elapsed_iff.mp hdue), tick_overflows hcounted hwraps]
  rfl

/-- A round that goes on leads from one reading to the next, and is counted. -/
theorem spin_goes_on (rounds : Nat) (hcounted : Counted limit i counter)
    (hread : reading world limit machine (i + 1) = .ok now) (hdue : ¬ Due ms start now)
    (hwraps : (i + 1) / period limit < 2 ^ 32) :
    ∃ next, Counted limit (i + 1) next ∧
      spin start (Int64.ofInt (ms.toInt * 1000)) (rounds + 1) counter world
          (before world limit machine (i + 1)) =
        spin start (Int64.ofInt (ms.toInt * 1000)) rounds next world
          (before world limit machine (i + 2)) := by
  obtain ⟨next, htick, hnext⟩ := tick_counted hcounted hwraps
  refine ⟨next, hnext, ?_⟩
  rw [spin, Attempt.bind_of_ok (Guest.readClock_run hread),
    if_neg (mt budget_le_elapsed_iff.mp hdue), htick]
  by_cases hdvd : period limit ∣ i + 1
  · rw [before_succ_of_dvd hdvd]
    simp only [decide_eq_true hdvd, if_true]
    rw [Attempt.bind_of_ok (Guest.log_run _ _), logLine_wrapWarning]
  · rw [before_succ_of_not_dvd hdvd]
    simp only [decide_eq_false hdvd]
    rfl

/-! ## Many rounds -/

/-- By induction on the readings that are not due: the loop arrives at the one behind them,
with as many rounds counted. -/
theorem spin_skips (rest : Nat) (hreads : ∀ j, 0 < j → j ≤ k → reading world limit machine j =
      .ok (times j))
    (hdue : ∀ j, 0 < j → j ≤ k → ¬ Due ms start (times j)) (hwraps : k / period limit < 2 ^ 32) :
    ∃ next, Counted limit k next ∧
      spin start (Int64.ofInt (ms.toInt * 1000)) (rest + k) (new limit) world
          (before world limit machine 1) =
        spin start (Int64.ofInt (ms.toInt * 1000)) rest next world
          (before world limit machine (k + 1)) := by
  induction k generalizing rest with
  | zero => exact ⟨new limit, new_counted limit, rfl⟩
  | succ k ih =>
      have hfewer : k / period limit < 2 ^ 32 :=
        Nat.lt_of_le_of_lt (Nat.div_le_div_right (Nat.le_succ k)) hwraps
      obtain ⟨counter, hcounted, hskips⟩ := ih (rest + 1)
        (fun j hpos hle => hreads j hpos (Nat.le_succ_of_le hle))
        (fun j hpos hle => hdue j hpos (Nat.le_succ_of_le hle)) hfewer
      obtain ⟨next, hnext, hround⟩ := spin_goes_on rest hcounted
        (hreads (k + 1) k.succ_pos (Nat.le_refl _)) (hdue (k + 1) k.succ_pos (Nat.le_refl _)) hwraps
      refine ⟨next, hnext, ?_⟩
      rw [← hround, ← hskips]
      congr 1
      omega

/-- By induction on the rounds: a loop that comes back has come to a reading that is due. -/
theorem exists_due_of_spin {rounds : Nat} {last : IterationCounter} {after : Machine σ}
    (hcounted : Counted limit i counter) (hsmall : i / period limit < 2 ^ 32)
    (hends : spin start (Int64.ofInt (ms.toInt * 1000)) rounds counter world
      (before world limit machine (i + 1)) = (.ok last, after)) :
    ∃ k, i < k ∧ (k - 1) / period limit < 2 ^ 32 ∧
      (∃ now, reading world limit machine k = .ok now ∧ Due ms start now) ∧
      ∀ j, i < j → j < k →
        ∃ now, reading world limit machine j = .ok now ∧ ¬ Due ms start now := by
  induction rounds generalizing i counter with
  | zero => cases hends
  | succ rounds ih =>
      cases hread : reading world limit machine (i + 1) with
      | error cause =>
          rw [spin_panics rounds hread] at hends
          cases hends
      | ok now =>
          by_cases hdue : Due ms start now
          · exact ⟨i + 1, Nat.lt_succ_self i, hsmall, ⟨now, hread, hdue⟩, by omega⟩
          · by_cases hwraps : (i + 1) / period limit < 2 ^ 32
            · obtain ⟨next, hnext, hround⟩ :=
                spin_goes_on rounds hcounted hread hdue hwraps
              rw [hround] at hends
              obtain ⟨k, hlt, hcount, hlast, hbetween⟩ := ih hnext hwraps hends
              -- the readings in between are this one and those of the rounds behind it
              refine ⟨k, by omega, hcount, hlast, fun j hj hjk => ?_⟩
              rcases Nat.eq_or_lt_of_le (Nat.succ_le_of_lt hj) with rfl | hlater
              · exact ⟨now, hread, hdue⟩
              · exact hbetween j hlater hjk
            · rw [spin_overflows rounds hcounted hread hdue (Nat.le_of_not_lt hwraps)] at hends
              cases hends

/-! ## The whole loop -/

/-- What is left when the loop has stopped at reading `k`. -/
structure Stopped (world : World σ) (limit : Int32) (machine : Machine σ) (ms : Int32) (k : Nat)
    (after : Machine σ) : Prop where
  heap : after.heap = machine.heap
  requests : after.requests = machine.requests
  /-- A warning each time the counter started again, and then the summary: that is all. -/
  journal : after.journal =
    .printed (summaryLine ms ((k - 1) % period limit) ((k - 1) / period limit)) ::
      (List.replicate ((k - 1) / period limit) (.printed warningLine) ++ machine.journal)
  /-- The clock has been read once in the beginning and `k` times after that. -/
  readings : ∀ reads : σ → Nat, CountsReadings world.host reads →
    reads after.host = reads machine.host + (k + 1)

theorem keepBusyWithLimit_of_spin (hstart : reading world limit machine 0 = .ok start) :
    keepBusyWithLimit ms limit world machine =
      (spin start (Int64.ofInt (ms.toInt * 1000))
          (world.rounds (before world limit machine 1).host ms) (new limit) >>= fun counter => do
        let _ ← Guest.log .info (busySummary ms counter)
        return ms) world (before world limit machine 1) := by
  have hread : Guest.readClock world machine = (.ok start, before world limit machine 1) :=
    Guest.readClock_run hstart
  have hrounds : (roundsFor ms : Guest σ Nat) world (before world limit machine 1) =
      (.ok (world.rounds (before world limit machine 1).host ms),
        before world limit machine 1) := rfl
  rw [keepBusyWithLimit, Attempt.bind_of_ok hread, Attempt.bind_of_ok hrounds]

/-- As long as no reading is due and the wraps fit into a word, the loop goes on. -/
theorem keepBusyWithLimit_skips {rest : Nat}
    (hreads : ∀ j ≤ k, reading world limit machine j = .ok (times j))
    (hrunning : Running ms times (k + 1)) (hwraps : k / period limit < 2 ^ 32)
    (hrounds : world.rounds (before world limit machine 1).host ms = rest + k) :
    ∃ next, Counted limit k next ∧
      keepBusyWithLimit ms limit world machine =
        (spin (times 0) (Int64.ofInt (ms.toInt * 1000)) rest next >>= fun counter => do
          let _ ← Guest.log .info (busySummary ms counter)
          return ms) world (before world limit machine (k + 1)) := by
  obtain ⟨next, hnext, hskips⟩ := spin_skips rest (fun j _ hle => hreads j hle)
    (fun j hpos hle => hrunning j hpos (Nat.lt_succ_of_le hle)) hwraps
  refine ⟨next, hnext, ?_⟩
  rw [keepBusyWithLimit_of_spin (hreads 0 (Nat.zero_le _)), hrounds, Attempt.bind_apply, hskips,
    ← Attempt.bind_apply]

/-- A loop that is given rounds enough stops at the first reading that is due. -/
theorem keepBusyWithLimit_run
    (hreads : ∀ j ≤ k, reading world limit machine j = .ok (times j))
    (hfirst : FirstDue ms times k) (hwraps : (k - 1) / period limit < 2 ^ 32)
    (hrounds : k ≤ world.rounds (before world limit machine 1).host ms) :
    keepBusyWithLimit ms limit world machine =
      (.ok ms, ((before world limit machine k).readTime world.host).say world.host
        (summaryLine ms ((k - 1) % period limit) ((k - 1) / period limit))) := by
  obtain ⟨k, rfl⟩ := Nat.exists_eq_succ_of_ne_zero (Nat.ne_of_gt hfirst.pos)
  obtain ⟨rest, hrest⟩ := Nat.exists_eq_add_of_le' hrounds
  have hgiven : world.rounds (before world limit machine 1).host ms = rest + 1 + k := by omega
  obtain ⟨counter, hcounted, hskips⟩ := keepBusyWithLimit_skips
    (fun j hle => hreads j (Nat.le_succ_of_le hle)) hfirst.running hwraps hgiven
  have hends := spin_due rest counter (hreads (k + 1) (Nat.le_refl _))
    hfirst.due
  rw [hskips, Attempt.bind_of_ok hends, Attempt.bind_of_ok (Guest.log_run _ _),
    logLine_busySummary hcounted]
  rfl

/-- A loop that is given rounds enough ends with the clock, if the clock fails before any
reading is due. -/
theorem keepBusyWithLimit_panics {cause : Panic}
    (hreads : ∀ j ≤ k, reading world limit machine j = .ok (times j))
    (hrunning : Running ms times (k + 1)) (hwraps : k / period limit < 2 ^ 32)
    (hfails : reading world limit machine (k + 1) = .error cause)
    (hrounds : k + 1 ≤ world.rounds (before world limit machine 1).host ms) :
    keepBusyWithLimit ms limit world machine =
      (.error (.panic cause), (before world limit machine (k + 1)).readTime world.host) := by
  obtain ⟨rest, hrest⟩ := Nat.exists_eq_add_of_le' hrounds
  have hgiven : world.rounds (before world limit machine 1).host ms = rest + 1 + k := by omega
  obtain ⟨counter, -, hskips⟩ := keepBusyWithLimit_skips hreads hrunning hwraps hgiven
  rw [hskips, Attempt.bind_of_error (spin_panics rest hfails)]

/-- A loop that is given rounds enough ends with its counter, if the wraps overflow before any
reading is due. -/
theorem keepBusyWithLimit_overflows
    (hreads : ∀ j ≤ 2 ^ 32 * period limit, reading world limit machine j = .ok (times j))
    (hrunning : Running ms times (2 ^ 32 * period limit + 1))
    (hrounds : 2 ^ 32 * period limit ≤ world.rounds (before world limit machine 1).host ms) :
    (keepBusyWithLimit ms limit world machine).1 = .error (.panic .additionOverflow) := by
  have hpos : 0 < 2 ^ 32 * period limit := Nat.mul_pos (Nat.two_pow_pos 32) (period_pos limit)
  obtain ⟨k, hk⟩ := Nat.exists_eq_succ_of_ne_zero (Nat.ne_of_gt hpos)
  obtain ⟨rest, hrest⟩ := Nat.exists_eq_add_of_le' hrounds
  have hgiven : world.rounds (before world limit machine 1).host ms = rest + 1 + k := by omega
  -- the wraps still fit in the round before, and come to 2³² in this one
  have hfits : k / period limit < 2 ^ 32 := by
    rw [Nat.div_lt_iff_lt_mul (period_pos limit)]
    omega
  have hfull : 2 ^ 32 ≤ (k + 1) / period limit := by
    rw [Nat.le_div_iff_mul_le (period_pos limit)]
    omega
  obtain ⟨counter, hcounted, hskips⟩ := keepBusyWithLimit_skips
    (fun j hle => hreads j (by omega)) (fun j hj hlt => hrunning j hj (by omega)) hfits hgiven
  have hoverflows := spin_overflows rest hcounted
    (hreads (k + 1) (by omega)) (hrunning (k + 1) (by omega) (by omega)) hfull
  rw [hskips, Attempt.bind_of_error hoverflows]

theorem stopped_readTime (hpos : 0 < k) :
    Stopped world limit machine ms k
      (((before world limit machine k).readTime world.host).say world.host
        (summaryLine ms ((k - 1) % period limit) ((k - 1) / period limit))) := by
  obtain ⟨k, rfl⟩ := Nat.exists_eq_succ_of_ne_zero (Nat.ne_of_gt hpos)
  refine ⟨(before_heap _).1, (before_heap _).2, ?_, fun reads hcounts => ?_⟩
  · exact congrArg _ (before_journal k)
  · rw [Machine.say, hcounts.print, Machine.readTime, hcounts.clock, hcounts.before]
    rfl

/-- However many rounds it is given, a loop that comes back has stopped at a first reading that
is due. -/
theorem exists_firstDue_of_keepBusyWithLimit {answer : Int32} {after : Machine σ}
    (hends : keepBusyWithLimit ms limit world machine = (.ok answer, after)) :
    ∃ k times, (∀ j ≤ k, reading world limit machine j = .ok (times j)) ∧
      FirstDue ms times k ∧ (k - 1) / period limit < 2 ^ 32 := by
  cases hstart : reading world limit machine 0 with
  | error cause =>
      have hpanics : Guest.readClock world machine =
          (.error (.panic cause), machine.readTime world.host) := Guest.readClock_run_panic hstart
      rw [keepBusyWithLimit, Attempt.bind_of_error hpanics] at hends
      cases hends
  | ok start =>
      have hnone : 0 / period limit < 2 ^ 32 := by
        rw [Nat.zero_div]
        exact Nat.two_pow_pos 32
      rw [keepBusyWithLimit_of_spin hstart] at hends
      obtain ⟨last, middle, hspin, -⟩ := Attempt.bind_eq_ok hends
      obtain ⟨k, hpos, hwraps, ⟨now, hread, hdue⟩, hbetween⟩ :=
        exists_due_of_spin (new_counted limit) hnone hspin
      -- the times that are read, and any where there is none
      let times := fun j => (reading world limit machine j).toOption.getD 0
      have htimes : ∀ {j : Nat} {now : Int64}, reading world limit machine j = .ok now →
          times j = now := by
        intro j now hread
        simp only [times, hread]
        rfl
      have hreads : ∀ j ≤ k, reading world limit machine j = .ok (times j) := by
        intro j hle
        rcases Nat.eq_zero_or_pos j with rfl | hj
        · rw [htimes hstart, hstart]
        · rcases Nat.eq_or_lt_of_le hle with rfl | hlt
          · rw [htimes hread, hread]
          · obtain ⟨time, htime, -⟩ := hbetween j hj hlt
            rw [htimes htime, htime]
      refine ⟨k, times, hreads, ⟨hpos, ?_, ?_⟩, hwraps⟩
      · rw [htimes hstart, htimes hread]
        exact hdue
      · intro j hj hlt
        obtain ⟨time, htime, hlater⟩ := hbetween j hj hlt
        rw [htimes hstart, htimes htime]
        exact hlater

end GuestHost.Sample

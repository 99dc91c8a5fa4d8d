import GuestHost.Sample.BusyLoop

/-!
# The counter in closed form

A counter that starts again at its limit, and counts how often it did, divides the number of
rounds by the limit: the remainder is its count, the quotient its wraps.  `Counted` says so,
`new_counted` for the counter in the beginning and `tick_counted` for one round more.  The
count stays below the limit, so there is always room for one more.  The wraps overflow in the
round in which the quotient no longer fits into a word, which is `tick_overflows`.

Rounds are numbered from one, and the counter starts again in those whose number is a multiple of
its limit.  So its `answers` in a whole run can be told without it, and so can the one round that
is too much for the wraps.
-/

namespace GuestHost.Sample.IterationCounter

/-- How many rounds a counter makes before it starts again: its limit, but at least one. -/
def period (limit : Int32) : Nat :=
  (max limit.toInt 1).toNat

/-- What a counter shows after some rounds. -/
structure Counted (limit : Int32) (ticks : Nat) (counter : IterationCounter) : Prop where
  limit_toInt : counter.limit.toInt = period limit
  count_toInt : counter.count.toInt = (ticks % period limit : Nat)
  wraps_toNat : counter.wraps.toNat = ticks / period limit

variable {limit : Int32} {ticks rounds : Nat} {counter : IterationCounter}

theorem period_pos (limit : Int32) : 0 < period limit := by
  unfold period
  omega

theorem period_le (limit : Int32) : (period limit : Int) ≤ Int32.maxValue.toInt := by
  have hle := limit.toInt_le
  have hmax : Int32.maxValue.toInt = 2147483647 := rfl
  unfold period
  omega

theorem new_counted (limit : Int32) : Counted limit 0 (new limit) where
  limit_toInt := by
    have hone : (1 : Int32).toInt = 1 := rfl
    by_cases hlimit : limit < 1
    · have hsmall := Int32.lt_iff_toInt_lt.mp hlimit
      simp only [new, if_pos hlimit, period]
      omega
    · have hlarge := mt Int32.lt_iff_toInt_lt.mpr hlimit
      simp only [new, if_neg hlimit, period]
      omega
  count_toInt := by
    rw [Nat.zero_mod]
    rfl
  wraps_toNat := by
    rw [Nat.zero_div]
    rfl

/-! ## One round -/

/-- A count below the largest word can be counted up. -/
theorem toInt_add_one {count : Int32} (hcount : count.toInt < Int32.maxValue.toInt) :
    (count + 1).toInt = count.toInt + 1 := by
  have hmax : Int32.maxValue.toInt = 2147483647 := rfl
  have hone : (1 : Int32).toInt = 1 := rfl
  have hle := count.le_toInt
  rw [Int32.toInt_add, hone]
  exact Int.bmod_eq_of_le (by omega) (by omega)

/-- Unless it comes to a multiple, the remainder is counted up as well. -/
theorem succ_mod_of_not_dvd {divisor : Nat} (hdvd : ¬ divisor ∣ ticks + 1) :
    (ticks + 1) % divisor = ticks % divisor + 1 := by
  have hquotient := Nat.succ_div_of_not_dvd hdvd
  have hnow := Nat.div_add_mod (ticks + 1) divisor
  have hbefore := Nat.div_add_mod ticks divisor
  rw [hquotient] at hnow
  omega

theorem dvd_succ_iff {divisor : Nat} (hdivisor : 0 < divisor) :
    divisor ∣ ticks + 1 ↔ ticks % divisor + 1 = divisor := by
  obtain ⟨divisor, rfl⟩ := Nat.exists_eq_add_of_lt hdivisor
  rw [Nat.zero_add, Nat.dvd_iff_mod_eq_zero, Nat.succ_mod_succ_eq_zero_iff, Nat.succ_inj]

namespace Counted

theorem count_lt (hcounted : Counted limit ticks counter) :
    counter.count.toInt < period limit := by
  rw [hcounted.count_toInt]
  exact_mod_cast Nat.mod_lt ticks (period_pos limit)

theorem count_lt_maxValue (hcounted : Counted limit ticks counter) :
    counter.count.toInt < Int32.maxValue.toInt :=
  Int.lt_of_lt_of_le hcounted.count_lt (period_le limit)

theorem count_ne_maxValue (hcounted : Counted limit ticks counter) :
    counter.count ≠ Int32.maxValue := by
  intro hmax
  have hlt := hcounted.count_lt_maxValue
  rw [hmax] at hlt
  exact Int.lt_irrefl _ hlt

/-- The counter is at its limit exactly if the period divides the number of rounds. -/
theorem limit_le_iff (hcounted : Counted limit ticks counter) :
    counter.limit ≤ counter.count + 1 ↔ period limit ∣ ticks + 1 := by
  have hlt := Nat.mod_lt ticks (period_pos limit)
  rw [Int32.le_iff_toInt_le, toInt_add_one hcounted.count_lt_maxValue, hcounted.limit_toInt,
    hcounted.count_toInt, dvd_succ_iff (period_pos limit)]
  omega

end Counted

/-- A round counts one more, and the counter starts again if the period divides the number
of rounds. -/
theorem tick_counted (hcounted : Counted limit ticks counter)
    (hwraps : (ticks + 1) / period limit < 2 ^ 32) :
    ∃ next, counter.tick = .ok (decide (period limit ∣ ticks + 1), next) ∧
      Counted limit (ticks + 1) next := by
  by_cases hdvd : period limit ∣ ticks + 1
  -- at the limit the remainder drops to zero and the quotient grows
  · have hquotient := Nat.succ_div_of_dvd hdvd
    have hroom : counter.wraps.toNat + 1 < 2 ^ 32 := by
      rw [hcounted.wraps_toNat, ← hquotient]
      exact hwraps
    refine ⟨{ counter with count := 0, wraps := counter.wraps + 1 }, ?_,
      ⟨hcounted.limit_toInt, ?_, ?_⟩⟩
    · rw [tick, if_neg hcounted.count_ne_maxValue, decide_eq_true hdvd]
      simp only [if_pos (hcounted.limit_le_iff.mpr hdvd), if_pos hroom]
    · rw [Nat.mod_eq_zero_of_dvd hdvd]
      rfl
    · have hone : (1 : UInt32).toNat = 1 := rfl
      rw [hquotient, ← hcounted.wraps_toNat, UInt32.toNat_add, hone]
      exact Nat.mod_eq_of_lt hroom
  -- below it the remainder grows and the quotient stays
  · refine ⟨{ counter with count := counter.count + 1 }, ?_,
      ⟨hcounted.limit_toInt, ?_, ?_⟩⟩
    · rw [tick, if_neg hcounted.count_ne_maxValue, decide_eq_false hdvd]
      simp only [if_neg (mt hcounted.limit_le_iff.mp hdvd)]
    · simp only [toInt_add_one hcounted.count_lt_maxValue, hcounted.count_toInt,
        succ_mod_of_not_dvd hdvd]
      omega
    · rw [hcounted.wraps_toNat, Nat.succ_div_of_not_dvd hdvd]

/-- The wraps overflow in the round in which they would come to 2³². -/
theorem tick_overflows (hcounted : Counted limit ticks counter)
    (hwraps : 2 ^ 32 ≤ (ticks + 1) / period limit) :
    counter.tick = .error .additionOverflow := by
  have hbound := counter.wraps.toNat_lt
  rw [hcounted.wraps_toNat] at hbound
  -- the quotient has grown, so the period divides the number of rounds
  have hdvd : period limit ∣ ticks + 1 := by
    apply Decidable.byContradiction
    intro hdvd
    rw [Nat.succ_div_of_not_dvd hdvd] at hwraps
    omega
  have hfull : ¬ counter.wraps.toNat + 1 < 2 ^ 32 := by
    rw [hcounted.wraps_toNat, ← Nat.succ_div_of_dvd hdvd]
    omega
  rw [tick, if_neg hcounted.count_ne_maxValue]
  simp only [if_pos (hcounted.limit_le_iff.mpr hdvd), if_neg hfull]

/-! ## Many rounds -/

/-- By induction on the rounds: as long as the wraps fit into a word no round overflows, and
the counter has started again as often as the quotient has grown. -/
theorem run_counted (hcounted : Counted limit ticks counter)
    (hwraps : (ticks + rounds) / period limit < 2 ^ 32) :
    ∃ last, run rounds (ticks / period limit) counter =
        .ok ((ticks + rounds) / period limit, last) ∧
      Counted limit (ticks + rounds) last := by
  induction rounds generalizing ticks counter with
  | zero => exact ⟨counter, rfl, hcounted⟩
  | succ rounds ih =>
      have hnext : (ticks + 1) / period limit < 2 ^ 32 :=
        Nat.lt_of_le_of_lt (Nat.div_le_div_right (by omega)) hwraps
      -- the round is counted as a start exactly if the quotient grows in it
      have hstarts : ticks / period limit + (decide (period limit ∣ ticks + 1)).toNat =
          (ticks + 1) / period limit := by
        rw [Nat.succ_div]
        by_cases hdvd : period limit ∣ ticks + 1 <;> simp [hdvd]
      obtain ⟨next, htick, hcountedNext⟩ := tick_counted hcounted hnext
      have hmore : ticks + (rounds + 1) = ticks + 1 + rounds := by omega
      rw [hmore] at hwraps ⊢
      obtain ⟨last, hrun, hlast⟩ := ih hcountedNext hwraps
      refine ⟨last, ?_, hlast⟩
      rw [run, htick]
      simp only [hstarts, hrun]

/-! ## The answers -/

/-- What a counter answers in each of some rounds, and the counter after them. -/
def answers : (rounds : Nat) → IterationCounter → Except Panic (List Bool × IterationCounter)
  | 0, counter => .ok ([], counter)
  | rounds + 1, counter =>
    match counter.tick with
    | .error panic => .error panic
    | .ok (wrapped, counter) =>
      (answers rounds counter).map fun (rest, last) => (wrapped :: rest, last)

/-- Of the answers only their number is kept where rounds are just counted. -/
theorem run_eq_answers (rounds starts : Nat) (counter : IterationCounter) :
    run rounds starts counter =
      (answers rounds counter).map fun (told, last) => (starts + told.count true, last) := by
  induction rounds generalizing starts counter with
  | zero => rfl
  | succ rounds ih =>
      rw [run, answers]
      rcases counter.tick with panic | ⟨wrapped, next⟩
      · rfl
      · simp only [ih]
        rcases answers rounds next with panic | ⟨rest, last⟩
        · rfl
        · have hcount : starts + wrapped.toNat + rest.count true =
              starts + (wrapped :: rest).count true := by
            cases wrapped with
            | false => rw [List.count_cons_of_ne Bool.false_ne_true, Bool.toNat_false, Nat.add_zero]
            | true => rw [List.count_cons_self, Bool.toNat_true, Nat.add_assoc, Nat.add_comm 1]
          exact congrArg (fun count => Except.ok (count, last)) hcount

/-- By induction on the rounds, which are numbered from the next one on: as long as the wraps
fit into a word, the answer is yes in the multiples of the period. -/
theorem answers_counted (hcounted : Counted limit ticks counter)
    (hwraps : (ticks + rounds) / period limit < 2 ^ 32) :
    ∃ last, answers rounds counter =
        .ok ((List.range' (ticks + 1) rounds).map fun round => decide (period limit ∣ round),
          last) ∧
      Counted limit (ticks + rounds) last := by
  induction rounds generalizing ticks counter with
  | zero => exact ⟨counter, rfl, hcounted⟩
  | succ rounds ih =>
      have hnext : (ticks + 1) / period limit < 2 ^ 32 :=
        Nat.lt_of_le_of_lt (Nat.div_le_div_right (by omega)) hwraps
      obtain ⟨next, htick, hcountedNext⟩ := tick_counted hcounted hnext
      have hmore : ticks + (rounds + 1) = ticks + 1 + rounds := by omega
      rw [hmore] at hwraps ⊢
      obtain ⟨last, hanswers, hlast⟩ := ih hcountedNext hwraps
      refine ⟨last, ?_, hlast⟩
      rw [answers, htick, List.range'_succ, List.map_cons]
      simp only [hanswers]
      rfl

/-- If the wraps would come to 2³² within some rounds, one of these overflows. -/
theorem answers_overflow (hcounted : Counted limit ticks counter)
    (hwraps : 2 ^ 32 ≤ (ticks + rounds) / period limit) :
    answers rounds counter = .error .additionOverflow := by
  induction rounds generalizing ticks counter with
  | zero =>
      have hbound := counter.wraps.toNat_lt
      rw [hcounted.wraps_toNat] at hbound
      rw [Nat.add_zero] at hwraps
      omega
  | succ rounds ih =>
      rw [answers]
      by_cases hnext : (ticks + 1) / period limit < 2 ^ 32
      · obtain ⟨next, htick, hcountedNext⟩ := tick_counted hcounted hnext
        have hmore : ticks + (rounds + 1) = ticks + 1 + rounds := by omega
        rw [hmore] at hwraps
        rw [htick]
        simp only [ih hcountedNext hwraps]
        rfl
      · rw [tick_overflows hcounted (Nat.le_of_not_lt hnext)]

/-! ## From the beginning -/

/-- The wraps come to 2³² in the round of this number. -/
theorem le_div_period_iff : 2 ^ 32 ≤ rounds / period limit ↔ period limit * 2 ^ 32 ≤ rounds := by
  rw [Nat.le_div_iff_mul_le (period_pos limit), Nat.mul_comm]

theorem answers_new (hwraps : rounds / period limit < 2 ^ 32) :
    ∃ last, answers rounds (new limit) =
        .ok ((List.range' 1 rounds).map fun round => decide (period limit ∣ round), last) ∧
      Counted limit rounds last := by
  rw [← Nat.zero_add rounds] at hwraps
  obtain ⟨last, hanswers, hcounted⟩ := answers_counted (new_counted limit) hwraps
  rw [Nat.zero_add] at hanswers hcounted
  exact ⟨last, hanswers, hcounted⟩

theorem answers_new_overflow (hlong : period limit * 2 ^ 32 ≤ rounds) :
    answers rounds (new limit) = .error .additionOverflow := by
  refine answers_overflow (new_counted limit) ?_
  rw [Nat.zero_add]
  exact le_div_period_iff.mpr hlong

/-- Where the rounds are just counted, the counter comes to the same. -/
theorem run_new {told : List Bool} {last : IterationCounter}
    (hwraps : rounds / period limit < 2 ^ 32)
    (hanswers : answers rounds (new limit) = .ok (told, last)) :
    run rounds 0 (new limit) = .ok (rounds / period limit, last) := by
  rw [← Nat.zero_add rounds] at hwraps
  -- both runs end with a counter, and it is the same one
  obtain ⟨same, hrun, -⟩ := run_counted (new_counted limit) hwraps
  rw [Nat.zero_add, Nat.zero_div] at hrun
  have hsame := hrun
  rw [run_eq_answers, hanswers] at hsame
  obtain rfl : last = same := congrArg Prod.snd (Except.ok.inj hsame)
  exact hrun

/-- One round before the wraps overflow they are full. -/
theorem div_period_of_full (limit : Int32) :
    (period limit * 2 ^ 32 - 1) / period limit = 2 ^ 32 - 1 := by
  have hpositive := period_pos limit
  rw [Nat.mul_comm]
  exact Nat.div_eq_of_lt_le (by omega) (by omega)

/-- The counter in closed form, whatever its limit.  As long as the wraps fit into a word all
rounds are counted: the answer is yes in the multiples of the period, the count is the remainder
and below the largest word, and the wraps are the quotient and the number of answers that were
yes.  The first round to overflow is 2³² periods, and in it the wraps are full and the count is
not. -/
theorem rounds_in_closed_form (limit : Int32) (rounds : Nat) :
    (rounds / period limit < 2 ^ 32 → ∃ last,
      answers rounds (new limit) =
        .ok ((List.range' 1 rounds).map fun round => decide (period limit ∣ round), last) ∧
      run rounds 0 (new limit) = .ok (rounds / period limit, last) ∧
      last.count.toInt = (rounds % period limit : Nat) ∧
      last.count.toInt < Int32.maxValue.toInt ∧
      last.wraps.toNat = rounds / period limit) ∧
    (answers rounds (new limit) = .error .additionOverflow ↔
      period limit * 2 ^ 32 ≤ rounds) ∧
    ∃ told full, answers (period limit * 2 ^ 32 - 1) (new limit) = .ok (told, full) ∧
      full.count.toInt < Int32.maxValue.toInt ∧ full.wraps.toNat + 1 = 2 ^ 32 ∧
      full.tick = .error .additionOverflow := by
  refine ⟨fun hwraps => ?_, ⟨fun hoverflow => ?_, answers_new_overflow⟩, ?_⟩
  · obtain ⟨last, hanswers, hcounted⟩ := answers_new hwraps
    exact ⟨last, hanswers, run_new hwraps hanswers, hcounted.count_toInt,
      hcounted.count_lt_maxValue, hcounted.wraps_toNat⟩
  -- as long as the wraps fit there are answers, so there has been no overflow
  · rw [← le_div_period_iff]
    refine Nat.le_of_not_lt fun hwraps => ?_
    obtain ⟨last, hanswers, -⟩ := answers_new hwraps
    rw [hanswers] at hoverflow
    cases hoverflow
  · have hquotient := div_period_of_full limit
    have hpositive := period_pos limit
    have hfits : (period limit * 2 ^ 32 - 1) / period limit < 2 ^ 32 := by omega
    obtain ⟨full, hanswers, hcounted⟩ := answers_new hfits
    refine ⟨_, full, hanswers, hcounted.count_lt_maxValue, ?_, tick_overflows hcounted ?_⟩
    · have hwraps := hcounted.wraps_toNat
      omega
    · refine le_div_period_iff.mpr ?_
      omega

/-- A counter with a limit of three starts again in the third and in the sixth of seven rounds. -/
theorem seven_rounds_of_a_limit_of_three :
    7 / period 3 < 2 ^ 32 ∧ ∃ last,
      answers 7 (new 3) = .ok ([false, false, true, false, false, true, false], last) ∧
      last.count.toInt = 1 ∧ last.wraps.toNat = 2 := by
  obtain ⟨hcounts, -⟩ := rounds_in_closed_form 3 7
  have hwraps : 7 / period 3 < 2 ^ 32 := by decide
  obtain ⟨last, hanswers, -, hcount, -, hlast⟩ := hcounts hwraps
  exact ⟨hwraps, last, hanswers, hcount, hlast⟩

end GuestHost.Sample.IterationCounter

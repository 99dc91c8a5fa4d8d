import GuestHost.Sample.Arithmetic
import Mathlib.Data.Nat.Fib.Basic

/-!
# The Fibonacci numbers of words

The recursion takes a word apart into the two words below it, and puts their numbers together by
a sum modulo 2³².  Downwards nothing is lost: a word above one has two words below it, which are
less and not negative (`toInt_of_asks`), so the recursion ends (`wellFounded_asks`), and it ends
at zero and one.  Upwards the sums wrap, from the 47th number on.  Taking residues commutes with
sums, though, so what comes out is the residue of the true Fibonacci number (`fib?_ofNat`), and
so it is when the numbers are computed one after the other (`goOn_fib`).
-/

namespace GuestHost.Sample

variable {n below : Int32}

/-! ## Downwards -/

/-- The recursion at `n` asks for the number of the word `below`. -/
def Asks (n below : Int32) : Prop :=
  1 < n ∧ (Word.sub? n 1 = some below ∨ Word.sub? n 2 = some below)

theorem toInt_of_asks (hasks : Asks n below) : 0 ≤ below.toInt ∧ below.toInt < n.toInt := by
  obtain ⟨hlarge, hbelow⟩ := hasks
  have hone : (1 : Int32).toInt = 1 := by decide
  have htwo : (2 : Int32).toInt = 2 := by decide
  rw [Int32.lt_iff_toInt_lt] at hlarge
  rcases hbelow with hbelow | hbelow
  · have hdifference := Word.toInt_of_sub? hbelow
    omega
  · have hdifference := Word.toInt_of_sub? hbelow
    omega

/-- The recursion cannot go down for ever. -/
theorem wellFounded_asks : WellFounded fun below n => Asks n below := by
  refine Subrelation.wf (fun hasks => ?_) (measure fun n : Int32 => n.toInt.toNat).wf
  obtain ⟨hnonneg, hless⟩ := toInt_of_asks hasks
  change Int.toNat _ < Int.toNat _
  omega

theorem fib?_of_le (hsmall : n ≤ 1) : fib? n = some n := by
  rw [fib?, dif_pos hsmall]

theorem fib?_of_lt (hlarge : 1 < n) :
    fib? n = do return (← fib? (n - 1)) + (← fib? (n - 2)) := by
  obtain ⟨hfirst, hsecond⟩ := sub?_below hlarge
  rw [fib?, dif_neg (Int32.not_le.mpr hlarge)]
  split
  · next before beforeThat hbefore hbeforeThat =>
    -- the recursion went down to the checked differences, which are the wrapping ones here
    cases hfirst.symm.trans hbefore
    cases hsecond.symm.trans hbeforeThat
    rfl
  · next hnone => exact (hnone _ _ hfirst hsecond).elim

/-! ## Upwards -/

/-- The recursion computes the residues of the Fibonacci numbers. -/
theorem fib?_ofNat {k : Nat} (hk : k < 2 ^ 31) :
    fib? (Int32.ofNat k) = some (Int32.ofNat (Nat.fib k)) := by
  induction k using Nat.twoStepInduction with
  | zero => exact fib?_of_le (by decide)
  | one => exact fib?_of_le (by decide)
  | more k ihBeforeThat ihBefore =>
      have hlarge : 1 < Int32.ofNat (k + 2) := by
        rw [Int32.lt_iff_toInt_lt, Int32.toInt_ofNat_of_lt hk]
        change (1 : Int) < _
        omega
      have hbefore : Int32.ofNat (k + 2) - 1 = Int32.ofNat (k + 1) := by
        rw [Int32.ofNat_add (k + 1) 1]
        exact Int32.add_sub_cancel _ _
      have hbeforeThat : Int32.ofNat (k + 2) - 2 = Int32.ofNat k := by
        rw [Int32.ofNat_add k 2]
        exact Int32.add_sub_cancel _ _
      have hsum : Int32.ofNat (Nat.fib (k + 1)) + Int32.ofNat (Nat.fib k) =
          Int32.ofNat (Nat.fib (k + 2)) := by
        rw [← Int32.ofNat_add, Nat.fib_add_two, Nat.add_comm]
      rw [fib?_of_lt hlarge, hbefore, hbeforeThat, ihBefore (by omega), ihBeforeThat (by omega)]
      exact congrArg some hsum

/-- The number of a word that is not negative. -/
theorem calcFib_of_nonneg (hnonneg : 0 ≤ n.toInt) :
    calcFib n = Int32.ofNat (Nat.fib n.toInt.toNat) := by
  have hword : Int32.ofNat n.toInt.toNat = n := by
    rw [← Int32.ofInt_eq_ofNat, Int.toNat_of_nonneg hnonneg, Int32.ofInt_toInt]
  have hfound := fib?_ofNat (k := n.toInt.toNat) (by have := n.toInt_lt; omega)
  rw [hword] at hfound
  exact Option.get_of_eq_some _ hfound

theorem calcFib_of_le (hsmall : n ≤ 1) : calcFib n = n :=
  Option.get_of_eq_some _ (fib?_of_le hsmall)

/-- What comes out leaves the residue of the true number. -/
theorem toInt_ofNat_emod (k : Nat) : (Int32.ofNat k).toInt % 2 ^ 32 = (k : Int) % 2 ^ 32 := by
  rw [Int32.toInt_ofNat']
  exact Int.bmod_emod

/-! ## One after the other -/

/-- Go on where each word is the sum of the two in front of it: the word `steps` places behind
`first`, which `second` comes next to. -/
def goOn (first second : Int32) : (steps : Nat) → Int32
  | 0 => first
  | steps + 1 => goOn second (first + second) steps

/-- Two residues that follow on each other lead to all that come behind. -/
theorem goOn_fib (k steps : Nat) :
    goOn (Int32.ofNat (Nat.fib k)) (Int32.ofNat (Nat.fib (k + 1))) steps =
      Int32.ofNat (Nat.fib (k + steps)) := by
  induction steps generalizing k with
  | zero => rfl
  | succ steps ih =>
      have hplace : k + 1 + steps = k + (steps + 1) := by omega
      rw [goOn, ← Int32.ofNat_add, ← Nat.fib_add_two, ih, hplace]

theorem goOn_zero_one (steps : Nat) : goOn 0 1 steps = Int32.ofNat (Nat.fib steps) :=
  calc goOn 0 1 steps
      = Int32.ofNat (Nat.fib (0 + steps)) := goOn_fib 0 steps
    _ = Int32.ofNat (Nat.fib steps) := by rw [Nat.zero_add]

/-- A word that is not negative has for its number the word with the residue of the Fibonacci
number modulo 2³², to which as many wrapping sums lead, one after the other; a negative word has
itself.  The recursion always has an answer: wherever it goes down, the words below are words,
and it does so finitely often. -/
theorem fibonacci_numbers_modulo_words (n : Int32) :
    (0 ≤ n.toInt →
      (calcFib n).toInt % 2 ^ 32 = (Nat.fib n.toInt.toNat : Int) % 2 ^ 32 ∧
        calcFib n = goOn 0 1 n.toInt.toNat) ∧
    (n.toInt < 0 → calcFib n = n) ∧
    fib? n = some (calcFib n) ∧
    (1 < n → (Word.sub? n 1).isSome ∧ (Word.sub? n 2).isSome) ∧
    WellFounded fun below n => Asks n below := by
  refine ⟨fun hnonneg => ?_, fun hnegative => ?_, (Option.some_get _).symm, fun hlarge => ?_,
    wellFounded_asks⟩
  · rw [calcFib_of_nonneg hnonneg]
    exact ⟨toInt_ofNat_emod _, (goOn_zero_one _).symm⟩
  · apply calcFib_of_le
    rw [Int32.le_iff_toInt_le]
    change _ ≤ (1 : Int)
    omega
  · obtain ⟨hfirst, hsecond⟩ := sub?_below hlarge
    rw [hfirst, hsecond]
    exact ⟨rfl, rfl⟩

/-- The 47th number is the first that is no signed word, and comes out as a negative one. -/
theorem fibonacci_number_wraps : Nat.fib 47 = 2971215073 ∧ calcFib 47 = -1323752223 := by
  obtain ⟨hnumber, -⟩ := fibonacci_numbers_modulo_words 47
  obtain ⟨-, hsums⟩ := hnumber (by decide)
  exact ⟨by decide +kernel, hsums.trans (by decide +kernel)⟩

end GuestHost.Sample

import GuestHost.Word

/-!
# Numbers in, numbers out

The samples that no buffer crosses the boundary for: a Fibonacci number by its
double recursion, and a sum of machine words.

The recursion goes over words, so each of its steps takes two differences of words.
`fib?` has no answer where one of them is no word.  This never happens, and `calcFib`
is the answer that there always is.
-/

namespace GuestHost.Sample

/-- The Fibonacci number of a word modulo 2³², by the double recursion: a word up to
one is its own number, and any other word has the sum of those of the two words below
it.  There is no number where a word below is wanted that is none. -/
def fib? (n : Int32) : Option Int32 :=
  if _hsmall : n ≤ 1 then some n
  else
    match _hfirst : Word.sub? n 1, _hsecond : Word.sub? n 2 with
    | some before, some beforeThat => do return (← fib? before) + (← fib? beforeThat)
    | _, _ => none
termination_by n.toInt.toNat
decreasing_by
  all_goals
    have hlarge := Int32.not_le.mp _hsmall
    rw [Int32.lt_iff_toInt_lt] at hlarge
    have hone : (1 : Int32).toInt = 1 := by decide
    have htwo : (2 : Int32).toInt = 2 := by decide
    have hfirst := Word.toInt_of_sub? _hfirst
    have hsecond := Word.toInt_of_sub? _hsecond
    omega

/-- Both words below a word above one are words. -/
theorem sub?_below {n : Int32} (hlarge : 1 < n) :
    Word.sub? n 1 = some (n - 1) ∧ Word.sub? n 2 = some (n - 2) := by
  rw [Int32.lt_iff_toInt_lt] at hlarge
  have hone : (1 : Int32).toInt = 1 := by decide
  have htwo : (2 : Int32).toInt = 2 := by decide
  exact ⟨Word.sub?_of_le (by omega) (by omega), Word.sub?_of_le (by omega) (by omega)⟩

/-- Every word has a Fibonacci number. -/
theorem isSome_fib? (n : Int32) : (fib? n).isSome := by
  fun_induction fib? n with
  | case1 n hsmall => rfl
  | case2 n hsmall before hfirst beforeThat hsecond hbefore hbeforeThat =>
    obtain ⟨number, hfound⟩ := Option.isSome_iff_exists.mp hbefore
    obtain ⟨numberThat, hfoundThat⟩ := Option.isSome_iff_exists.mp hbeforeThat
    rw [hfound, hfoundThat]
    rfl
  | case3 n hsmall hlacks =>
    obtain ⟨hfirst, hsecond⟩ := sub?_below (Int32.not_le.mp hsmall)
    exact (hlacks _ _ hfirst hsecond).elim

/-- The Fibonacci number of a word modulo 2³². -/
def calcFib (n : Int32) : Int32 :=
  (fib? n).get (isSome_fib? n)

/-- The sum of two machine words modulo 2⁶⁴. -/
def add (left right : UInt64) : UInt64 :=
  left + right

end GuestHost.Sample

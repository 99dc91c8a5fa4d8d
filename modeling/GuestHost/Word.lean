import GuestHost.Bytes

/-!
# Machine words

Pointers, lengths and status codes cross the boundary as 32-bit words.  A count
of bytes is a natural number on this side; `toCount?` reads a signed word as a
count, `ofCount?` writes a count as a signed word, and both refuse what does not
fit.  In memory a word is four bytes, the least significant first.
-/

namespace GuestHost.Word

/-- A signed word as a count; a negative word is none. -/
def toCount? (word : Int32) : Option Nat :=
  if 0 ≤ word.toInt then some word.toInt.toNat else none

/-- A count as a signed word, if it is at most the largest one. -/
def ofCount? (count : Nat) : Option Int32 :=
  if count < 2 ^ 31 then some (Int32.ofNat count) else none

/-- A count as a signed word, the largest word standing for every larger count. -/
def clamp (count : Nat) : Int32 :=
  (ofCount? count).getD Int32.maxValue

/-- The sum of two signed words, if it is one. -/
def add? (a b : Int32) : Option Int32 :=
  let sum := a.toInt + b.toInt
  if Int32.minValue.toInt ≤ sum ∧ sum ≤ Int32.maxValue.toInt then some (Int32.ofInt sum) else none

/-- The difference of two signed words, if it is one. -/
def sub? (a b : Int32) : Option Int32 :=
  let difference := a.toInt - b.toInt
  if Int32.minValue.toInt ≤ difference ∧ difference ≤ Int32.maxValue.toInt then
    some (Int32.ofInt difference)
  else none

/-- A difference that is a word is not changed by being made one. -/
theorem toInt_of_sub? {a b difference : Int32} (hfound : sub? a b = some difference) :
    difference.toInt = a.toInt - b.toInt := by
  have hleast : Int32.minValue.toInt = -2 ^ 31 := by decide
  have hgreatest : Int32.maxValue.toInt = 2 ^ 31 - 1 := by decide
  simp only [sub?, hleast, hgreatest] at hfound
  split at hfound
  · next hbounds =>
    obtain rfl := Option.some.inj hfound
    exact Int32.toInt_ofInt_of_le hbounds.1 (by omega)
  · cases hfound

/-- A word that is not negative can be taken from every word that is not less. -/
theorem sub?_of_le {a b : Int32} (hnonneg : 0 ≤ b.toInt) (hle : b.toInt ≤ a.toInt) :
    sub? a b = some (a - b) := by
  have hleast : Int32.minValue.toInt = -2 ^ 31 := by decide
  have hgreatest : Int32.maxValue.toInt = 2 ^ 31 - 1 := by decide
  have hbound := a.toInt_lt
  simp only [sub?, hleast, hgreatest]
  rw [if_pos (by omega), Int32.ofInt_sub, Int32.ofInt_toInt, Int32.ofInt_toInt]

/-- The four bytes of a word, least significant first. -/
def toBytes (word : UInt32) : Bytes :=
  let value := word.toNat
  [UInt8.ofNat value, UInt8.ofNat (value / 2 ^ 8), UInt8.ofNat (value / 2 ^ 16),
    UInt8.ofNat (value / 2 ^ 24)]

/-- The word whose four bytes, least significant first, are given. -/
def ofBytes (b₀ b₁ b₂ b₃ : UInt8) : UInt32 :=
  UInt32.ofNat
    (b₀.toNat + 2 ^ 8 * b₁.toNat + 2 ^ 16 * b₂.toNat + 2 ^ 24 * b₃.toNat)

/-- The word at the head of a byte string, if four bytes stand there. -/
def first? : Bytes → Option UInt32
  | b₀ :: b₁ :: b₂ :: b₃ :: _ => some (ofBytes b₀ b₁ b₂ b₃)
  | _ => none

/-- The four bytes of a word stand for that word, whatever follows them. -/
theorem first?_toBytes (word : UInt32) (rest : Bytes) :
    first? (toBytes word ++ rest) = some word := by
  simp only [toBytes, List.cons_append, first?, Option.some.injEq]
  apply UInt32.toNat.inj
  have hbound := word.toNat_lt
  simp only [ofBytes, UInt32.toNat_ofNat', UInt8.toNat_ofNat']
  omega

/-- Every four bytes are the bytes of the word they stand for. -/
theorem toBytes_ofBytes (b₀ b₁ b₂ b₃ : UInt8) :
    toBytes (ofBytes b₀ b₁ b₂ b₃) = [b₀, b₁, b₂, b₃] := by
  have h₀ := b₀.toNat_lt
  have h₁ := b₁.toNat_lt
  have h₂ := b₂.toNat_lt
  have h₃ := b₃.toNat_lt
  simp only [toBytes, ofBytes, UInt32.toNat_ofNat', List.cons.injEq, and_true]
  refine ⟨?_, ?_, ?_, ?_⟩ <;>
    (apply UInt8.toNat.inj; simp only [UInt8.toNat_ofNat']; omega)

/-- A word is written in four bytes. -/
@[simp] theorem length_toBytes (word : UInt32) : (toBytes word).length = 4 := rfl

end GuestHost.Word

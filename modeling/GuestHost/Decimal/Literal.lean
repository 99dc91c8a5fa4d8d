import GuestHost.Decimal.Binary64

/-!
# Numbers written in decimal

A text is a natural number if it is one digit or more, an integer if a sign may
stand in front of that, and a binary number if it has digits with at most one point
among them and perhaps a power of ten behind, or is one of the names of infinity and
of what is not a number, whatever the case of their letters.  No blank and no mark
between digits is read.
-/

namespace GuestHost

namespace Literal

/-- The value of a digit, of either case where letters are digits. -/
def digitValue (c : Char) : Nat :=
  if c.isDigit then c.toNat - '0'.toNat
  else c.toLower.toNat - 'a'.toNat + 10

/-- The natural number that a row of digits stands for in a base. -/
def ofDigits (base : Nat) (digits : List Char) : Nat :=
  digits.foldl (fun number c => number * base + digitValue c) 0

/-- A sign in front of a text, and the text behind it. -/
def sign : List Char → Bool × List Char
  | '-' :: rest => (true, rest)
  | '+' :: rest => (false, rest)
  | text => (false, text)

/-- A row of one digit or more. -/
def natural? (text : List Char) : Option Nat :=
  if text ≠ [] ∧ text.all Char.isDigit then some (ofDigits 10 text) else none

/-- A natural number behind an optional sign. -/
def integer? (text : List Char) : Option Int :=
  let (negative, digits) := sign text
  (natural? digits).map fun magnitude => if negative then -(magnitude : Int) else magnitude

/-- The least signed integer of 64 bits. -/
def leastSigned64 : Int := -2 ^ 63

/-- The greatest signed integer of 64 bits. -/
def greatestSigned64 : Int := 2 ^ 63 - 1

/-- The greatest unsigned integer of 64 bits. -/
def greatestUnsigned64 : Int := 2 ^ 64 - 1

/-- An integer that fits a signed word of 64 bits. -/
def signed64? (text : List Char) : Option Int :=
  (integer? text).filter fun value => leastSigned64 ≤ value ∧ value ≤ greatestSigned64

/-- An integer without a minus sign that fits an unsigned word of 64 bits. -/
def unsigned64? (text : List Char) : Option Int :=
  if (sign text).1 then none
  else (integer? text).filter fun value => value ≤ greatestUnsigned64

/-- The power of ten behind the digits of a number, zero if nothing stands there. -/
def power? : List Char → Option Int
  | [] => some 0
  | mark :: rest => if mark = 'e' ∨ mark = 'E' then integer? rest else none

/-- Digits with at most one point among them, and a power of ten behind them. -/
def magnitude? (negative : Bool) (text : List Char) : Option Binary64 :=
  let whole := text.takeWhile Char.isDigit
  let behind := text.dropWhile Char.isDigit
  let (fraction, rest) :=
    match behind with
    | '.' :: behind => (behind.takeWhile Char.isDigit, behind.dropWhile Char.isDigit)
    | behind => ([], behind)
  if whole ++ fraction = [] then none
  else (power? rest).map fun power =>
    .ofDecimal negative (ofDigits 10 (whole ++ fraction)) (power - fraction.length)

/-- A binary number. -/
def binary64? (text : List Char) : Option Binary64 :=
  let (negative, body) := sign text
  let name := String.ofList (body.map Char.toLower)
  if name = "inf" ∨ name = "infinity" then some (.infinite negative)
  else if name = "nan" then some .nan
  else magnitude? negative body

end Literal

end GuestHost

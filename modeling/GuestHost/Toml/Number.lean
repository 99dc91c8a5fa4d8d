import GuestHost.Scalar
import GuestHost.Toml.Text

/-!
# Numbers in a document

Digits may be parted by single underscores.  A decimal integer has no leading zero,
one in base 16, 8 or 2 no sign; a number with a fraction, a power of ten or both is
binary, as are infinity and what is not a number.
-/

namespace GuestHost.Toml

namespace Grammar

open GuestHost.Reader

/-- Digits with a single underscore at most between two of them. -/
def partedDigits (isDigit : Char → Bool) : Reader (List Char) := do
  let first ← one isDigit
  let rest ← repeated (one isDigit <|> (do exactly "_"; one isDigit))
  return first :: rest

/-- A sign, as it is written. -/
def signMark : Reader (List Char) := do
  return (← optional (one fun c => c = '+' ∨ c = '-')).toList

/-- A decimal integer as a text: a sign, and digits that begin with a zero only if it
stands alone. -/
def decimalDigits : Reader (List Char) := do
  let mark ← signMark
  let digits ← (do exactly "0"; return ['0']) <|> partedDigits Char.isDigit
  return mark ++ digits

/-- A point and digits behind it. -/
def fraction : Reader (List Char) := do
  exactly "."
  return '.' :: (← partedDigits Char.isDigit)

/-- The mark of a power of ten, a sign and digits. -/
def power : Reader (List Char) := do
  let _ ← one fun c => c = 'e' ∨ c = 'E'
  return 'e' :: (← signMark) ++ (← partedDigits Char.isDigit)

/-- A number with a fraction or a power of ten.  None is read where a positive one is
too great to be finite. -/
def finiteNumber : Reader Scalar := do
  let whole ← decimalDigits
  let rest ← power <|> (do return (← fraction) ++ (← optional power).getD [])
  let number ← ofOption (Literal.binary64? (whole ++ rest))
  if number = .infinite false then failure else return .number number

/-- Infinity, or what is not a number. -/
def specialNumber : Reader Scalar := do
  let mark ← signMark
  (do exactly "inf"; return .number (.infinite (mark = ['-'])))
    <|> (do exactly "nan"; return .number .nan)

/-- An integer in a base that a mark tells. -/
def basedInteger (mark : String) (base : Nat) (isDigit : Char → Bool) : Reader Scalar := do
  exactly mark
  let value : Int := Literal.ofDigits base (← partedDigits isDigit)
  if value ≤ Literal.greatestSigned64 then return .integer value else failure

/-- A decimal integer. -/
def decimalInteger : Reader Scalar := do
  return .integer (← ofOption (Literal.signed64? (← decimalDigits)))

/-- A number of any form. -/
def number : Reader Scalar :=
  finiteNumber
    <|> specialNumber
    <|> basedInteger "0x" 16 isHexDigit
    <|> basedInteger "0o" 8 (fun c => '0' ≤ c ∧ c ≤ '7')
    <|> basedInteger "0b" 2 (fun c => c = '0' ∨ c = '1')
    <|> decimalInteger

end Grammar

end GuestHost.Toml

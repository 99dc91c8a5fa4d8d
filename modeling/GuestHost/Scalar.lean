import GuestHost.Decimal.Literal
import GuestHost.Decimal.Shortest

/-!
# Scalars

A scalar is a truth value, an integer of 64 bits, a binary number or a text.  Where
a text, an integer or a truth value is wanted, a scalar of another kind is taken for
one if that makes sense: `toText` always finds a text, `toInteger?` an integer
between two bounds unless a text names none.
-/

namespace GuestHost

/-- A single value of a setting.  An integer is in the range of signed words of 64
bits, which is what readers of scalars see to. -/
inductive Scalar where
  | boolean (value : Bool)
  | integer (value : Int)
  | number (value : Binary64)
  | text (value : String)
  deriving DecidableEq, Repr

namespace Scalar

/-- A text without the case of its ASCII letters. -/
def lowerCase (text : String) : String :=
  String.ofList (text.toList.map Char.toLower)

/-- The truth value that a text names, whatever the case of its letters. -/
def truth? (text : String) : Option Bool :=
  if lowerCase text = "true" then some true
  else if lowerCase text = "false" then some false
  else none

/-- The scalar that an untyped text stands for: a truth value if it names one, else a
signed integer of 64 bits, else a binary number, else the text itself. -/
def ofUntyped (text : String) : Scalar :=
  match truth? text, Literal.signed64? text.toList, Literal.binary64? text.toList with
  | some value, _, _ => .boolean value
  | none, some value, _ => .integer value
  | none, none, some value => .number value
  | none, none, none => .text text

/-- A scalar as a text. -/
def toText : Scalar → String
  | .boolean value => if value then "true" else "false"
  | .integer value => toString value
  | .number value => value.toText
  | .text value => value

/-- The integer that a switch stands for: one if it is on, zero if it is off. -/
def switch? (text : String) : Option Int :=
  if lowerCase text ∈ ["true", "on", "yes"] then some 1
  else if lowerCase text ∈ ["false", "off", "no"] then some 0
  else none

end Scalar

end GuestHost

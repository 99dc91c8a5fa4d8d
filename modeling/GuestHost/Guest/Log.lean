import GuestHost.Guest.Machine
import GuestHost.Level
import GuestHost.Text.Utf8

/-!
# Printing and logging

All text leaves the guest through the host's print function, as a C string.
`printText` prints a text up to its first U+0000; `log` prints a line with the tag
of a level in front.
-/

namespace GuestHost.Guest

variable {σ : Type}

/-- The characters of a text before its first U+0000. -/
def headOf (text : String) : String :=
  String.ofList (text.toList.takeWhile (· != '\x00'))

/-- Print a text up to its first U+0000, and answer what the host answers.  A C
string cannot hold a zero byte: if there were one, the answer would be -1. -/
def printText (text : String) : Guest σ Int32 :=
  let bytes := Utf8.encode (headOf text)
  match bytes.firstNul? with
  | none => print bytes
  | some _ => pure (-1)

/-- Print a line that carries its level. -/
def log (level : Level) (message : String) : Guest σ Int32 :=
  printText (level.tag ++ message ++ "\n")

end GuestHost.Guest

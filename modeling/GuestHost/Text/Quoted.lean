import GuestHost.Text.Hidden

/-!
# Quoted text

Messages that name a value show a text between double quotes, on one line: tab,
line feed, carriage return and NUL by a letter or digit after a backslash, a
backslash and a double quote behind a backslash, and every hidden character by
its code point in hexadecimal, `\u{…}`.  A file path is shown in the same way,
with single quotes behind a backslash too.
-/

namespace GuestHost.Quoted

/-- The hexadecimal digits of a number, lower case, without leading zeros. -/
def hexDigits (n : Nat) : String :=
  String.ofList (Nat.toDigits 16 n)

/-- One character as quoted text shows it. -/
def character (c : Char) : String :=
  if c = '\x00' then "\\0"
  else if c = '\t' then "\\t"
  else if c = '\n' then "\\n"
  else if c = '\r' then "\\r"
  else if c = '\\' then "\\\\"
  else if c = '"' then "\\\""
  else if Hidden.isHidden c then "\\u\x7b" ++ hexDigits c.toNat ++ "\x7d"
  else c.toString

/-- A text between double quotes. -/
def text (s : String) : String :=
  "\"" ++ String.join (s.toList.map character) ++ "\""

/-- A file path between double quotes. -/
def path (s : String) : String :=
  "\"" ++ String.join (s.toList.map fun c => if c = '\'' then "\\'" else character c) ++ "\""

end GuestHost.Quoted

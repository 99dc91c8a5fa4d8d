import GuestHost.Text.Reader

/-!
# Blanks, comments and line ends

What may stand between the parts of a document without meaning anything.
-/

namespace GuestHost.Toml

namespace Grammar

open GuestHost.Reader

/-- A line feed, perhaps behind a carriage return. -/
def lineFeed : Reader Unit :=
  exactly "\n" <|> exactly "\r\n"

/-- A blank or a tab. -/
def isBlank (c : Char) : Bool :=
  c = ' ' ∨ c = '\t'

/-- Blanks and tabs. -/
def blanks : Reader Unit := do
  let _ ← many isBlank

/-- A character that may stand in a comment or in a text: no control character but the
tab. -/
def isPlain (c : Char) : Bool :=
  c = '\t' ∨ (' ' ≤ c ∧ c ≠ '\x7f')

/-- A comment, up to the end of its line. -/
def comment : Reader Unit := do
  exactly "#"
  let _ ← many isPlain

/-- What may stand behind the matter of a line, up to and with its end. -/
def restOfLine : Reader Unit := do
  blanks
  let _ ← optional comment
  lineFeed <|> endOfText

/-- Blanks, line ends and comments between the items of an array. -/
def gap : Reader Unit := do
  let _ ← repeated ((do let _ ← some1 isBlank) <|> lineFeed <|> (do comment; lineFeed))

end Grammar

end GuestHost.Toml

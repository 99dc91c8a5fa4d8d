import GuestHost.Decimal.Literal
import GuestHost.Toml.Blank

/-!
# Texts in a document

A text stands between double quotes, where a backslash begins an escape, or between
single quotes, where every character stands for itself.  Between three quotes of
either kind it may go over several lines.  Keys are written as texts of one line, or
bare.
-/

namespace GuestHost.Toml

namespace Grammar

open GuestHost.Reader

/-- A hexadecimal digit. -/
def isHexDigit (c : Char) : Bool :=
  c.isDigit ∨ ('a' ≤ c ∧ c ≤ 'f') ∨ ('A' ≤ c ∧ c ≤ 'F')

/-- The character with a code point in a given number of hexadecimal digits.  There is
none at a surrogate or beyond the last code point. -/
def codePoint (digits : Nat) : Reader Char := do
  let number := Literal.ofDigits 16 (← times digits isHexDigit)
  if valid : number.isValidChar then return Char.ofNatAux number valid
  else failure

/-- What a letter behind a backslash stands for. -/
def escape : Reader Char := do
  match ← one fun _ => true with
  | 'b' => return '\x08'
  | 'f' => return '\x0c'
  | 'n' => return '\n'
  | 'r' => return '\r'
  | 't' => return '\t'
  | '"' => return '"'
  | '\\' => return '\\'
  | 'u' => codePoint 4
  | 'U' => codePoint 8
  | _ => failure

/-- A character between double quotes. -/
def escapedOrPlain : Reader Char :=
  one (fun c => isPlain c ∧ c ≠ '"' ∧ c ≠ '\\') <|> (do exactly "\\"; escape)

/-- A text of one line between double quotes. -/
def basicText : Reader String := do
  exactly "\""
  let content ← repeated escapedOrPlain
  exactly "\""
  return String.ofList content

/-- A text of one line between single quotes. -/
def literalText : Reader String := do
  exactly "'"
  let content ← many fun c => isPlain c ∧ c ≠ '\''
  exactly "'"
  return String.ofList content

/-- A backslash at the end of a line takes away the line end and all blanks and line
ends behind it. -/
def foldedLines : Reader (List Char) := do
  exactly "\\"
  blanks
  lineFeed
  let _ ← repeated ((do let _ ← some1 isBlank) <|> lineFeed)
  return []

/-- One quote or two that do not belong to the closing three. -/
def innerQuotes (quote : Char) : Reader (List Char) := fun input =>
  let quotes := input.takeWhile (· = quote)
  if quotes.length = 1 ∨ quotes.length = 2 then some (quotes, input.drop quotes.length)
  else none

/-- The closing three quotes, with one quote or two in front that belong to the text. -/
def closingQuotes (quote : Char) : Reader (List Char) := fun input =>
  let quotes := input.takeWhile (· = quote)
  if 3 ≤ quotes.length then
    let inner := min 2 (quotes.length - 3)
    some (quotes.take inner, input.drop (inner + 3))
  else none

/-- A text between three quotes.  A line end right behind the opening quotes does not
belong to it, and every line end that does is a line feed. -/
def longText (quote : Char) (piece : Reader (List Char)) : Reader String := do
  exactly (String.ofList [quote, quote, quote])
  let _ ← optional lineFeed
  let content ← repeated (piece <|> (do lineFeed; return ['\n']) <|> innerQuotes quote)
  let last ← closingQuotes quote
  return String.ofList (content.flatten ++ last)

/-- A text between three double quotes. -/
def longBasicText : Reader String :=
  longText '"' ((do return [← escapedOrPlain]) <|> foldedLines)

/-- A text between three single quotes. -/
def longLiteralText : Reader String :=
  longText '\'' (some1 fun c => isPlain c ∧ c ≠ '\'')

/-- A text in any of the four forms. -/
def text : Reader String :=
  longBasicText <|> basicText <|> longLiteralText <|> literalText

/-- A key without quotes. -/
def bareKey : Reader String := do
  return String.ofList (← some1 fun c => c.isAlphanum ∨ c = '_' ∨ c = '-')

/-- A key. -/
def simpleKey : Reader String :=
  basicText <|> literalText <|> bareKey

/-- The number of parts that a dotted key may not reach, and the depth that brackets
and braces may not. -/
def depthLimit : Nat := 80

/-- A key of one part or more with points between them, as its parts but the last and
the last one. -/
def dottedKey : Reader (List String × String) := do
  let parts ← separated (do blanks; let part ← simpleKey; blanks; return part) (exactly ".")
  if parts.length < depthLimit then
    return (parts.dropLast, ← ofOption parts.getLast?)
  else failure

end Grammar

end GuestHost.Toml

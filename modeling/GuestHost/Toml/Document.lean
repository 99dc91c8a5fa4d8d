import GuestHost.Toml.Moment
import GuestHost.Toml.Number
import GuestHost.Toml.Value

/-!
# Documents

A document is a sequence of lines: headers, keys with their values, comments and
nothing at all.  `statements` reads the lines, and `read?` builds the tree of the
document from them, each key going to the table of the last header before it.  There
is one way to fail: the text is no document.
-/

namespace GuestHost.Toml

/-- A line of a document that says something. -/
inductive Statement where
  /-- the header of a table -/
  | table (path : List String) (key : String)
  /-- the header of one more table under a key -/
  | element (path : List String) (key : String)
  /-- a dotted key and its value -/
  | assignment (path : List String) (key : String) (value : Value)

namespace Grammar

open GuestHost.Reader

/-! ## Values -/

/-- A value without brackets or braces. -/
def scalar : Reader Value :=
  Value.scalar <$>
    ((Scalar.text <$> text)
      <|> moment
      <|> number
      <|> (do exactly "true"; return .boolean true)
      <|> (do exactly "false"; return .boolean false))

/-- The items of an array, between brackets and with commas between them. -/
def array (item : Reader Value) : Reader Value := do
  exactly "["
  let spaced := do gap; let value ← item; gap; return value
  let items ← optional (do
    let items ← separated spaced (exactly ",")
    let _ ← optional (exactly ",")
    return items)
  gap
  exactly "]"
  return .array (items.getD [])

/-- A dotted key and its value. -/
def assignment (item : Reader Value) : Reader (List String × String × Value) := do
  let (path, key) ← dottedKey
  exactly "="
  blanks
  let value ← item
  blanks
  return (path, key, value)

/-- A table between braces, on one line. -/
def inlineTable (item : Reader Value) : Reader Value := do
  exactly "\x7b"
  let assignments := (← optional (separated (assignment item) (exactly ","))).getD []
  blanks
  exactly "\x7d"
  let entries ← ofOption (assignments.foldlM
    (fun entries (path, key, value) => Entries.assign path key value entries) [])
  return .inlineTable entries

/-- A value with less than a given depth of brackets and braces. -/
def value : Nat → Reader Value
  | 0 => failure
  | 1 => scalar
  | depth + 1 => scalar <|> array (value depth) <|> inlineTable (value depth)

/-! ## Lines -/

/-- A line that says something, with its end. -/
def statement : Reader Statement :=
  (do
    exactly "[["
    let (path, key) ← dottedKey
    exactly "]]"
    restOfLine
    return .element path key)
  <|> (do
    exactly "["
    let (path, key) ← dottedKey
    exactly "]"
    restOfLine
    return .table path key)
  <|> (do
    let (path, key, value) ← assignment (value depthLimit)
    restOfLine
    return .assignment path key value)

/-- A line that says nothing, with its end. -/
def emptyLine : Reader Unit :=
  lineFeed <|> (do comment; lineFeed <|> endOfText)

/-- All lines of a document, a byte order mark in front of them being ignored. -/
def statements : Reader (List Statement) := do
  let _ ← optional (exactly "\ufeff")
  blanks
  let lines ← repeated (do
    let line ← (some <$> statement) <|> (do emptyLine; return none)
    blanks
    return line)
  endOfText
  return lines.filterMap id

end Grammar

/-! ## The tree of the lines -/

/-- A document in the making: its entries, and the path of the last header. -/
structure Draft where
  entries : Entries
  header : List String

namespace Draft

/-- The empty document. -/
def empty : Draft := ⟨[], []⟩

/-- What a line adds to a document. -/
def add (draft : Draft) : Statement → Option Draft
  | .table path key => do
    return ⟨← draft.entries.beginTable path key, path ++ [key]⟩
  | .element path key => do
    return ⟨← draft.entries.beginElement path key, path ++ [key]⟩
  | .assignment path key value => do
    let entries ← draft.entries.descend .header
      (fun _ below => below.assign path key value) draft.header .declared
    return ⟨entries, draft.header⟩

end Draft

/-- The tree of a document. -/
def read? (text : String) : Option Entries := do
  let (lines, _) ← Grammar.statements.run text.toList
  let draft ← lines.foldlM Draft.add Draft.empty
  return draft.entries

end GuestHost.Toml

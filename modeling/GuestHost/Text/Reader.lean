/-!
# Reading by characters

A reader takes characters from the front of a text and answers with what it read, or
reads nothing at all.  Readers are put together with `do`, and with `<|>` where one
may be read or else the other.
-/

namespace GuestHost

/-- What takes characters from the front of a text. -/
abbrev Reader := StateT (List Char) Option

namespace Reader

/-- The characters of a text, one after the other. -/
def exactly (text : String) : Reader Unit := fun input =>
  if text.toList.isPrefixOf input then some ((), input.drop text.length) else none

/-- One character of a class. -/
def one (inClass : Char → Bool) : Reader Char
  | [] => none
  | c :: rest => if inClass c then some (c, rest) else none

/-- All characters of a class that stand in front, perhaps none. -/
def many (inClass : Char → Bool) : Reader (List Char) := fun input =>
  some (input.takeWhile inClass, input.dropWhile inClass)

/-- All characters of a class that stand in front, at least one. -/
def some1 (inClass : Char → Bool) : Reader (List Char) := do
  return (← one inClass) :: (← many inClass)

/-- A given number of characters of a class. -/
def times : Nat → (Char → Bool) → Reader (List Char)
  | 0, _ => pure []
  | count + 1, inClass => do return (← one inClass) :: (← times count inClass)

/-- What a partial function makes of what was read. -/
def ofOption {α : Type} (value : Option α) : Reader α :=
  StateT.lift value

/-- What a reader reads, over and over until it reads nothing.  A reader that takes a
character each time is done before the rounds are. -/
def repeated {α : Type} (reader : Reader α) : Reader (List α) := fun input =>
  go (input.length + 1) input
where
  go : Nat → List Char → Option (List α × List Char)
    | 0, input => some ([], input)
    | rounds + 1, input =>
      match reader input with
      | none => some ([], input)
      | some (value, rest) => (go rounds rest).map fun (values, rest) => (value :: values, rest)

/-- One thing or more with a separator between them. -/
def separated {α : Type} (reader : Reader α) (separator : Reader Unit) : Reader (List α) := do
  return (← reader) :: (← repeated (do separator; reader))

/-- The end of the text. -/
def endOfText : Reader Unit
  | [] => some ((), [])
  | _ :: _ => none

end Reader

end GuestHost

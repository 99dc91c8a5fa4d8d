import GuestHost.Settings.Library
import GuestHost.Text.Reader
import GuestHost.Toml.Value

/-!
# What was found

A library looks settings up by key in what the file and the environment say.  Of a value
that is an array or a table no more is kept than that it is one, since no setting
takes either.  A key may be a path into a value, such as `limits.depth` or
`limits[2]`: its first name is the key that is set then, to a table or an array.
The case of keys does not matter.
-/

namespace GuestHost.Settings

/-- What was found under a key. -/
inductive Found where
  | scalar (value : Scalar) (origin : Origin)
  -- an array that a path made is of no origin
  | sequence (origin : Option Origin)
  | mapping
  deriving DecidableEq, Repr

namespace Found

/-- What a value in the file comes to. -/
def ofFile : Toml.Value → Found
  | .scalar value => .scalar value .file
  | .array _ | .tables _ => .sequence (some .file)
  | .inlineTable _ | .table _ _ => .mapping

/-- What the text of a variable comes to, whether it is parsed or not. -/
def ofVariable (parses : Bool) (text : String) : Found :=
  .scalar (if parses then .ofUntyped text else .text text) .environment

/-- A finding without its origin. -/
def held : Found → Held
  | .scalar value _ => .scalar value
  | .sequence _ | .mapping => .composite

end Found

/-! ## Keys that are paths -/

/-- How a path goes on behind a name: to an entry of a table, or to an item of an
array. -/
inductive PathStep where
  | entry
  | item
  deriving DecidableEq, Repr

/-- The first name of a key, and how the path goes on from there if it does. -/
structure KeyPath where
  name : String
  next : Option PathStep
  deriving DecidableEq, Repr

namespace KeyPath

open GuestHost.Reader

/-- A character of a name in a path. -/
def isNamePart (c : Char) : Bool :=
  c.isAlphanum ∨ c = ' ' ∨ c = '_' ∨ c = '-'

/-- A point and the name of an entry. -/
def entryStep : Reader PathStep := do
  exactly "."
  let _ ← some1 isNamePart
  return .entry

/-- The number of an item between brackets, which may be counted from the end. -/
def itemStep : Reader PathStep := do
  let isBlank (c : Char) : Bool := c = ' ' ∨ c = '\t'
  exactly "["
  let _ ← many isBlank
  let mark ← optional (exactly "-")
  let digits ← some1 Char.isDigit
  let _ ← many isBlank
  exactly "]"
  let number := if mark.isSome then '-' :: digits else digits
  let _ ← ofOption (Literal.signed64? number)
  return .item

/-- A name and the steps behind it. -/
def path : Reader (List Char × List PathStep) := do
  let name ← some1 isNamePart
  let steps ← repeated (entryStep <|> itemStep)
  endOfText
  return (name, steps)

/-- A key as a path; what cannot be read as one is a name as a whole. -/
def ofKey (key : String) : KeyPath :=
  match path.run key.toList with
  | some ((name, steps), _) => ⟨Scalar.lowerCase (String.ofList name), steps.head?⟩
  | none => ⟨Scalar.lowerCase key, none⟩

end KeyPath

/-! ## Collecting -/

/-- What was found under each key, the latest finding first. -/
abbrev Findings := List (String × Found)

namespace Findings

/-- What was found under a key. -/
def find? (findings : Findings) (key : String) : Option Found :=
  List.lookup key findings

/-- Set a key, or what a path leads to.  A path through an array leaves the origin of
the array as it is. -/
def set (findings : Findings) (key : String) (found : Found) : Findings :=
  let ⟨name, next⟩ := KeyPath.ofKey key
  match next with
  | none => (name, found) :: findings
  | some .entry => (name, .mapping) :: findings
  | some .item =>
    match findings.find? name with
    | some (.sequence _) => findings
    | _ => (name, .sequence none) :: findings

/-- Set one key after the other. -/
def assign (findings : Findings) (assignments : List (String × Found)) : Findings :=
  assignments.foldl (fun findings assignment => findings.set assignment.1 assignment.2) findings

end Findings

end GuestHost.Settings

import GuestHost.Scalar

/-!
# The tree of a document

A document is a table: keys in the order of their first use, each with a scalar, an
array or a table.  How a table came about decides what may still be added to it, so
that is kept: a table with a header of its own is complete once the next header
begins, one between braces is complete at once, and one that only stands on the way
to another may be completed later in the same manner.

`descend` walks a path of keys down to a table and changes what is there, making the
tables on its way; it finds no table where the document forbids the walk.
-/

namespace GuestHost.Toml

/-- How a table came about. -/
inductive Standing where
  /-- by a header of its own, or as the document itself -/
  | declared
  /-- on the way of a header to a table below -/
  | implied
  /-- on the way of a dotted key -/
  | dotted
  deriving DecidableEq, Repr

/-- What stands behind a key. -/
inductive Value where
  | scalar (value : Scalar)
  -- between brackets
  | array (items : List Value)
  -- between braces
  | inlineTable (entries : List (String × Value))
  -- by headers and dotted keys
  | table (standing : Standing) (entries : List (String × Value))
  -- by headers in double brackets, each of which adds a table
  | tables (elements : List (List (String × Value)))

/-- The entries of a table. -/
abbrev Entries := List (String × Value)

namespace Entries

/-- The value behind a key. -/
def find? (entries : Entries) (key : String) : Option Value :=
  List.lookup key entries

/-- Put a value behind a key, in the place of the key if the table has it, at the end
otherwise. -/
def put (entries : Entries) (key : String) (value : Value) : Entries :=
  if (find? entries key).isSome then
    entries.map fun entry => if entry.1 == key then (key, value) else entry
  else entries ++ [(key, value)]

/-- What a walk is for: to reach the table of a header, or to follow a dotted key. -/
inductive Walk where
  | header
  | dottedKey
  deriving DecidableEq, Repr

/-- How a table stands that a walk makes. -/
def Walk.standing : Walk → Standing
  | .header => .implied
  | .dottedKey => .dotted

/-- Walk down a path of keys and change the table at its end, whose standing the
change is told.  A missing table is made on the way.  Of the tables of a double
header the last one is entered.  A dotted key enters no table that has a header of
its own, and nothing but a table is ever entered. -/
def descend (walk : Walk) (change : Standing → Entries → Option Entries) :
    List String → Standing → Entries → Option Entries
  | [], standing, entries => change standing entries
  | key :: path, _, entries =>
    match find? entries key with
    | none => do
      let below ← descend walk change path walk.standing []
      return put entries key (.table walk.standing below)
    | some (.table standing below) =>
      if walk = .dottedKey ∧ standing = .declared then none
      else do
        let below ← descend walk change path standing below
        return put entries key (.table standing below)
    | some (.tables elements) => do
      let last ← elements.getLast?
      let last ← descend walk change path .declared last
      return put entries key (.tables (elements.dropLast ++ [last]))
    | some _ => none

/-- Add a value that a dotted key names, `path` being the key without its last part.
The table it goes to must have been made by dotted keys, if there is a path, and must
not have the key yet. -/
def assign (path : List String) (key : String) (value : Value) (entries : Entries) :
    Option Entries :=
  descend .dottedKey
    (fun standing below =>
      if path ≠ [] ∧ standing ≠ .dotted then none
      else if (find? below key).isSome then none
      else some (put below key value))
    path .declared entries

/-- Begin the table of a header.  It must be new, or have stood on the way of earlier
headers only. -/
def beginTable (path : List String) (key : String) (entries : Entries) : Option Entries :=
  descend .header
    (fun _ below =>
      match find? below key with
      | none => some (put below key (.table .declared []))
      | some (.table .implied inner) => some (put below key (.table .declared inner))
      | some _ => none)
    path .declared entries

/-- Begin one more table of a double header. -/
def beginElement (path : List String) (key : String) (entries : Entries) : Option Entries :=
  descend .header
    (fun _ below =>
      match find? below key with
      | none => some (put below key (.tables [[]]))
      | some (.tables elements) => some (put below key (.tables (elements ++ [[]])))
      | some _ => none)
    path .declared entries

end Entries

end GuestHost.Toml

import GuestHost.Settings.Suit
import GuestHost.Text.Utf8
import GuestHost.Toml.Document

/-!
# A library that collects findings

The library that the program reads its settings with: a source assigns findings to keys, the
file as a document, the environment by the names of its variables.  All assignments are made
one after the other, so a later source prevails.
-/

namespace GuestHost.Settings

/-- The assignments in the content of a file. -/
def readFile (content : Bytes) : Except Refusal (List (String × Found)) :=
  match Utf8.decode? content with
  | none => .error .encoding
  | some text =>
    match Toml.read? text with
    | none => .error .notDocument
    | some entries => .ok (entries.map fun entry => (entry.1, .ofFile entry.2))

/-- The key that a variable sets, if its name begins with a word. -/
def variableKey? (word name : String) : Option String :=
  let name := (Scalar.lowerCase name).toList
  let start := (Scalar.lowerCase word ++ "_").toList
  if start.isPrefixOf name then some (String.ofList (name.drop start.length)) else none

/-- The assignments that the variables of an environment make. -/
def readVariables (word : String) (parses : Bool) (environment : List (String × String)) :
    List (String × Found) :=
  environment.filterMap fun entry =>
    (variableKey? word entry.1).map fun key => (key, .ofVariable parses entry.2)

/-- The findings of all sources, or why one of them cannot be read. -/
def collect (sources : List (Except Refusal (List (String × Found)))) :
    Except Refusal Findings :=
  sources.foldlM (fun findings source => source.map findings.assign) []

/-- The library that collects findings. -/
def collector : Library where
  Source := Except Refusal (List (String × Found))
  Table := Findings
  file := readFile
  environment := fun word parses environment => .ok (readVariables word parses environment)
  build := collect
  held? := fun findings key => (findings.find? key).map Found.held
  deserialize := ofFindings
  text? := fun scalar => some scalar.toText
  count? := fun scalar => (Integers.unsigned.ofScalar scalar).toOption.map Int.toNat
  word? := fun scalar =>
    ((Integers.signed.ofScalar scalar).toOption.filter fun value =>
      -2 ^ 31 ≤ value ∧ value < 2 ^ 31).map Int32.ofInt

end GuestHost.Settings

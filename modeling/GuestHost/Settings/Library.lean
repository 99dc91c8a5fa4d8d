import GuestHost.Scalar
import GuestHost.Settings.Basic
import GuestHost.Settings.Error

/-!
# The library that settings are read with

Settings are read by a library for such things.  It takes a file and the variables of an
environment for *sources*, builds one table of all sources, and makes a record of what the
table holds under the keys of the record.  A `Library` is what a loader uses of it.

How such a library reads its file is its own business.  What a loader counts on is
`Library.Lawful`: that a later source overrides the earlier ones key by key, that the texts
of variables are parsed, that a scalar is converted to the type of a setting, and that a key
under which nothing is held leaves its setting as it is by default.
-/

namespace GuestHost.Settings

/-- What a table holds under a key. -/
inductive Held where
  | scalar (value : Scalar)
  /-- an array or a table -/
  | composite
  deriving DecidableEq, Repr

/-- A library to read settings with. -/
structure Library where
  Source : Type
  Table : Type
  /-- The content of a file. -/
  file : Bytes → Source
  /-- The variables of an environment whose names begin with a word; their texts may be
  parsed, or be left as they are. -/
  environment : (word : String) → (parses : Bool) → List (String × String) → Source
  /-- The table of all sources. -/
  build : List Source → Except Refusal Table
  held? : Table → String → Option Held
  /-- The settings that a table holds; those that it does not hold are as they are by
  default. -/
  deserialize : (byDefault : Settings) → Table → Except Refusal Settings
  /-- What a scalar is converted to for a setting that takes a text. -/
  text? : Scalar → Option String
  /-- What it is converted to for one that takes a count. -/
  count? : Scalar → Option Nat
  /-- What it is converted to for one that takes a word. -/
  word? : Scalar → Option Int32

/-! ## Variables -/

/-- The keys of the settings. -/
def keys : List String :=
  ["module_path", "max_log_len", "buffer_status", "log_filter"]

/-- The word that the names of variables begin with. -/
def variableWord : String := "SAMPLES_HARNESS"

/-- The name of the variable for a key, in small letters. -/
def variableName (key : String) : String :=
  Scalar.lowerCase variableWord ++ "_" ++ key

/-- A variable is for a key if its name is that of the key, whatever the case of its
letters, or goes on from there as a path to an entry or an item. -/
def isFor (key name : String) : Bool :=
  let whole := (variableName key).toList
  let name := (Scalar.lowerCase name).toList
  whole.isPrefixOf name && (name.drop whole.length).head?.all fun c => c == '.' || c == '['

/-- There is one variable for a key, with a text, and it is named for the key itself; or
there is none. -/
def Sets (environment : List (String × String)) (key : String) (text? : Option String) : Prop :=
  ((environment.filter fun entry => isFor key entry.1).map fun entry =>
    (Scalar.lowerCase entry.1, entry.2)) = text?.toList.map fun text => (variableName key, text)

instance {environment : List (String × String)} {key : String} {text? : Option String} :
    Decidable (Sets environment key text?) :=
  inferInstanceAs (Decidable (_ = _))

/-- What a text is parsed as: a truth value, else a signed integer of 64 bits, else a binary
number, else the text itself. -/
inductive ParsesAs (text : String) : Scalar → Prop
  | boolean {value : Bool} (htruth : Scalar.truth? text = some value) :
    ParsesAs text (.boolean value)
  | integer {value : Int} (htruth : Scalar.truth? text = none)
      (hinteger : Literal.signed64? text.toList = some value) : ParsesAs text (.integer value)
  | number {value : Binary64} (htruth : Scalar.truth? text = none)
      (hinteger : Literal.signed64? text.toList = none)
      (hnumber : Literal.binary64? text.toList = some value) : ParsesAs text (.number value)
  | text (htruth : Scalar.truth? text = none)
      (hinteger : Literal.signed64? text.toList = none)
      (hnumber : Literal.binary64? text.toList = none) : ParsesAs text (.text text)

/-! ## Laws -/

/-- A setting is what the scalar under its key is converted to, or what it is by default if
nothing is held there. -/
def Receives {α : Type} (convert? : Scalar → Option α) (byDefault : α) :
    Option Held → α → Prop
  | none, value => value = byDefault
  | some (.scalar scalar), value => convert? scalar = some value
  | some .composite, _ => False

/-- What a loader counts on. -/
structure Library.Lawful (library : Library) : Prop where
  /-- Without any source nothing is held. -/
  build_nil : ∃ table, library.build [] = .ok table ∧ ∀ key, library.held? table key = none
  /-- All sources are built, or none. -/
  build_of_concat : ∀ {sources : List library.Source} {last : library.Source}
    {table : library.Table}, library.build (sources ++ [last]) = .ok table →
      ∃ below, library.build sources = .ok below
  /-- A later source overrides the earlier ones key by key. -/
  build_concat : ∀ {sources : List library.Source} {last : library.Source}
    {below above : library.Table},
    library.build sources = .ok below → library.build [last] = .ok above →
      ∃ table, library.build (sources ++ [last]) = .ok table ∧ ∀ key,
        (library.held? above key = none →
          library.held? table key = library.held? below key) ∧
        ∀ scalar, library.held? above key = some (.scalar scalar) →
          library.held? table key = some (.scalar scalar)
  /-- An environment can always be read. -/
  build_environment : ∀ environment : List (String × String),
    ∃ table, library.build [library.environment variableWord true environment] = .ok table
  /-- A setting that no variable is for is not held. -/
  held?_of_unset : ∀ {environment : List (String × String)} {table : library.Table},
    library.build [library.environment variableWord true environment] = .ok table →
      ∀ key ∈ keys, Sets environment key none → library.held? table key = none
  /-- The text of a variable is parsed. -/
  held?_of_set : ∀ {environment : List (String × String)} {table : library.Table},
    library.build [library.environment variableWord true environment] = .ok table →
      ∀ key ∈ keys, ∀ text, Sets environment key (some text) →
        ∃ scalar, ParsesAs text scalar ∧ library.held? table key = some (.scalar scalar)
  /-- Each setting receives what is held under its own key. -/
  deserialize_eq_ok_iff : ∀ {byDefault : Settings} {table : library.Table}
    {settings : Settings}, library.deserialize byDefault table = .ok settings ↔
      Receives library.text? byDefault.modulePath (library.held? table "module_path")
        settings.modulePath ∧
      Receives library.count? byDefault.maxLogLength (library.held? table "max_log_len")
        settings.maxLogLength ∧
      Receives library.word? byDefault.bufferStatus (library.held? table "buffer_status")
        settings.bufferStatus ∧
      Receives library.text? byDefault.logFilter (library.held? table "log_filter")
        settings.logFilter
  text?_boolean : ∀ value, library.text? (.boolean value) = some (toString value)
  text?_integer : ∀ value, library.text? (.integer value) = some (toString value)
  text?_number : ∀ value : Binary64, library.text? (.number value) = some value.toText
  text?_text : ∀ value, library.text? (.text value) = some value
  /-- An integer that is not negative is the count that it is. -/
  count?_integer : ∀ value : Nat, library.count? (.integer value) = some value
  /-- A number is rounded, and kept within the unsigned words of 64 bits. -/
  count?_number : ∀ value : Binary64,
    library.count? (.number value) = some (value.toIntWithin 0 (2 ^ 64 - 1)).toNat
  /-- An integer in the range of words is the word that it is. -/
  word?_integer : ∀ value : Int32, library.word? (.integer value.toInt) = some value

end GuestHost.Settings

import GuestHost.Text.Quoted

/-!
# Why settings are refused

Settings are looked for in a file and in the environment.  The file may not be
readable as a document, a value may not suit the setting that it is for, and what all
values come to may make no sense.
-/

namespace GuestHost.Settings

/-- Where a value was found. -/
inductive Origin where
  | file
  | environment
  deriving DecidableEq, Repr

/-- The name of the file with settings in a directory. -/
def fileName : String := "harness.toml"

/-- How a message names an origin. -/
def Origin.name : Origin → String
  | .file => fileName
  | .environment => "the environment"

/-- What a setting takes. -/
inductive Wanted where
  | text
  | integer
  deriving DecidableEq, Repr

/-- How a message names what a setting takes. -/
def Wanted.name : Wanted → String
  | .text => "a string"
  | .integer => "an integer"

/-- A value that does not suit its setting. -/
inductive Unsuitable where
  /-- an array, which is neither a text nor an integer -/
  | sequence (wanted : Wanted)
  /-- a table, which is neither a text nor an integer -/
  | mapping (wanted : Wanted)
  /-- a text that names no integer -/
  | notInteger (text : String)
  /-- an integer below zero where none may be -/
  | negative (value : Int)
  /-- an integer beyond a signed word of 32 bits -/
  | beyondWord (value : Int)
  deriving DecidableEq, Repr

/-- How a message describes a value that does not suit its setting. -/
def Unsuitable.message : Unsuitable → String
  | .sequence wanted => "invalid type: sequence, expected " ++ wanted.name
  | .mapping wanted => "invalid type: map, expected " ++ wanted.name
  | .notInteger text =>
    "invalid type: string " ++ Quoted.text text ++ ", expected " ++ Wanted.integer.name
  | .negative value =>
    "invalid type: 64-bit integer `" ++ toString value
      ++ "`, expected an unsigned 64 bit or less integer"
  | .beyondWord value =>
    "invalid type: 64-bit integer `" ++ toString value
      ++ "`, expected an signed 32 bit integer"

/-- Why settings are refused. -/
inductive Refusal where
  /-- there is a file, and the name of its directory is no text -/
  | directoryName
  /-- the file is no text -/
  | encoding
  /-- the text of the file is no document -/
  | notDocument
  /-- a value does not suit its setting; its origin is told if it is known -/
  | unsuitable (value : Unsuitable) (key : String) (origin : Option Origin)
  /-- nothing of a printed string would be kept -/
  | noLogLength
  deriving DecidableEq, Repr

/-- The message of a refusal. -/
def Refusal.message : Refusal → String
  | .directoryName => "Invalid config path"
  | .encoding => "stream did not contain valid UTF-8"
  | .notDocument => fileName ++ " is not a document"
  | .unsuitable value key origin =>
    value.message ++ " for key `" ++ key ++ "`"
      ++ (origin.map fun origin => " in " ++ origin.name).getD ""
  | .noLogLength => "max_log_len must be greater than 0"

end GuestHost.Settings

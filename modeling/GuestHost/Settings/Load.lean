import GuestHost.Settings.Collector

/-!
# Loading settings

Settings come from the file in a directory, if it is there, and from the environment,
which prevails.  What neither tells is as it is by default.  Whether settings make
sense is asked last, of what all of it came to.
-/

namespace GuestHost.Settings

/-- Where settings are loaded from. -/
structure Surroundings where
  /-- The content of the file, if it is there. -/
  file : Option Bytes
  /-- The name of the directory is a text. -/
  namedByText : Bool
  /-- The variables of the environment, by name. -/
  environment : List (String × String)

/-- Settings as they are, if they make sense. -/
def check (settings : Settings) : Except Refusal Settings :=
  if settings.isValid then .ok settings else .error .noLogLength

/-- The file as a source, if it is there. -/
def fileSources (library : Library) (surroundings : Surroundings) :
    Except Refusal (List library.Source) :=
  match surroundings.file with
  | none => .ok []
  | some content =>
    if surroundings.namedByText then .ok [library.file content] else .error .directoryName

/-- Load settings with a library. -/
def loadWith (library : Library) (surroundings : Surroundings) : Except Refusal Settings := do
  let sources ← fileSources library surroundings
  let overrides := library.environment variableWord true surroundings.environment
  let table ← library.build (sources ++ [overrides])
  let settings ← library.deserialize default table
  check settings

/-- Load settings with the library that collects findings. -/
def load : Surroundings → Except Refusal Settings :=
  loadWith collector

end GuestHost.Settings

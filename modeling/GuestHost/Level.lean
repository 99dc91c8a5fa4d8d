/-!
# Log levels

A guest has one way out for text, so the level of a log line stands at its head:
`[WARN] message`.  `Level.tag` is that head, and `Level.parseLine` takes a line
apart again.  The parser cuts at the first `"] "` of the line and then looks up
what stands between the brackets, so a line with any other word there has no
level, whatever follows.
-/

namespace GuestHost

/-- How serious a log line is, from the least to the most. -/
inductive Level
  | trace
  | debug
  | info
  | warn
  | error
  deriving DecidableEq, Repr

namespace Level

/-- Every level, in ascending order. -/
def all : List Level := [.trace, .debug, .info, .warn, .error]

/-- The word for a level. -/
def name : Level → String
  | .trace => "TRACE"
  | .debug => "DEBUG"
  | .info => "INFO"
  | .warn => "WARN"
  | .error => "ERROR"

/-- The place of a level in the ascending order. -/
def rank : Level → Nat
  | .trace => 0
  | .debug => 1
  | .info => 2
  | .warn => 3
  | .error => 4

instance : Ord Level where
  compare a b := compare a.rank b.rank

/-- What a line of this level starts with. -/
def tag (level : Level) : String :=
  "[" ++ level.name ++ "] "

/-- The characters before and after the first `"] "`. -/
def splitAtBracket : List Char → Option (List Char × List Char)
  | [] => none
  | c :: rest =>
    match c, rest with
    | ']', ' ' :: message => some ([], message)
    | _, _ => (splitAtBracket rest).map fun (word, message) => (c :: word, message)

/-- The level of a line and the message behind it, if the line has a level. -/
def parseLine (line : String) : Option (Level × String) :=
  match line.toList with
  | '[' :: rest =>
    match splitAtBracket rest with
    | none => none
    | some (word, message) =>
      (all.find? fun level => level.name.toList == word).map fun level =>
        (level, String.ofList message)
  | _ => none

end Level

end GuestHost

/-!
# Requests

What the command line can ask the program to do.
-/

namespace Cellwise

/-- The forms in which a command prints what it found. -/
inductive OutputFormat where
  | text
  | json
  deriving DecidableEq, Repr

/-- The format of a name. -/
def OutputFormat.ofName? : String → Option OutputFormat
  | "text" => some text
  | "json" => some json
  | _ => none

/-- The commands. -/
inductive Command where
  /-- Shows how a person is stored. -/
  | encode (firstname lastname : String)
  /-- Shows the person that a stored text stands for. -/
  | decode (stored : String)
  /-- Saves, changes and loads an employee. -/
  | demo (id : String)
  deriving DecidableEq, Repr

/-- A command with the options that all commands have. -/
structure Request where
  command : Command
  /-- The file with the settings. -/
  config : Option String
  verbose : Bool
  format : OutputFormat
  deriving DecidableEq, Repr

end Cellwise

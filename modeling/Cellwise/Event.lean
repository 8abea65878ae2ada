import Cellwise.Text.Characters
import Cellwise.Text.Numeral

/-!
# Events

What a computation does besides answering: it notes lines in a log, calls the readers of
converters, and prints. Events are plain data in the order in which they happen.
-/

namespace Cellwise

/-- How important a log line is. -/
inductive Level where
  | debug
  | info
  | warn
  deriving DecidableEq, Repr

namespace Level

/-- The name of a level. -/
def name : Level → String
  | debug => "DEBUG"
  | info => "INFO"
  | warn => "WARN"

/-- Levels ascend from `debug` to `warn`. -/
def rank : Level → Nat
  | debug => 0
  | info => 1
  | warn => 2

end Level

/-- The value of a field of a log line. -/
inductive LogValue where
  /-- A text as it is. -/
  | bare (text : String)
  /-- A text between quotes. -/
  | quoted (text : String)
  | number (n : Nat)
  | flag (b : Bool)
  deriving DecidableEq, Repr

/-- The text of a value. -/
def LogValue.render : LogValue → String
  | bare text => text
  | quoted text => Text.quoted text
  | number n => Text.ofInt n
  | flag b => if b then "true" else "false"

/-- A line of the log. -/
structure LogEntry where
  level : Level
  target : String
  message : String
  fields : List (String × LogValue)
  deriving DecidableEq, Repr

namespace LogEntry

/-- The line without its level: target, message and fields. -/
def body (entry : LogEntry) : String :=
  entry.target ++ ": " ++ entry.message ++
    String.join (entry.fields.map fun (name, value) => " " ++ name ++ "=" ++ value.render)

/-- The line with its level. -/
def line (entry : LogEntry) : String := entry.level.name ++ " " ++ entry.body

/-- The line with its level moved to the right within five places. -/
def alignedLine (entry : LogEntry) : String :=
  let name := entry.level.name
  String.ofList (List.replicate (5 - name.length) ' ') ++ name ++ " " ++ entry.body

end LogEntry

/-- Something that happens besides the answer. -/
inductive Event where
  /-- A line is noted in the log. -/
  | log (entry : LogEntry)
  /-- The reader of a type is called on a source. -/
  | readerCall (type source : String)
  /-- A text is printed. -/
  | print (text : String)
  deriving DecidableEq, Repr

/-- The log line of an event, if it is one. -/
def Event.logEntry? : Event → Option LogEntry
  | log entry => some entry
  | _ => none

end Cellwise

import Cellwise.Catalog.Converters
import Cellwise.Catalog.Employee
import Cellwise.CommandLine.Error
import Cellwise.CommandLine.Request
import Cellwise.CommandLine.Style
import Cellwise.Settings.App

/-!
# Commands

What the commands do. They print lines, note in the log what happens, and fail with a
`CommandError`. Files come from outside: a command is told how to read one.

* `Commands.encode`, `Commands.decode` and `Commands.demo` are the commands, given their settings.
* `Request.run` loads the settings of a request and runs its command.
-/

namespace Cellwise

/-- How a command prints. -/
structure Console where
  format : OutputFormat
  colored : Bool := false

namespace Console

/-- Prints a line. -/
def printLine (line : String) : Report CommandError Unit := Action.emit (.print (line ++ "\n"))

/-- A text in a style. -/
def style (console : Console) (style : Style) (text : String) : String :=
  style.apply console.colored text

end Console

namespace Commands

open Console

/-! ## Encoding and decoding -/

/-- Shows how a person is stored. -/
def encode (settings : AppSettings) (person : Person) (console : Console) :
    Report CommandError Unit := do
  let registry ← (staffRegistry settings.conversion).mapError .registry
  let stored ← (Action.ofExcept (registry.write FieldType.person person)).mapError .registry
  match console.format with
  | .text => printLine stored
  | .json => printLine (Json.object [("stored", .string stored)]).render

/-- The text that shows a person, or that there is none. -/
def shownPerson (console : Console) : Option Person → String
  | some person =>
    console.style .boldGreen "✓" ++ " " ++ console.style .bold person.firstname ++ " " ++
      person.lastname
  | none => console.style .dimmed "(absent)"

/-- Shows the person that a stored text stands for. -/
def decode (settings : AppSettings) (stored : String) (console : Console) :
    Report CommandError Unit := do
  let registry ← (staffRegistry settings.conversion).mapError .registry
  let person : Option Person ← (registry.read FieldType.person stored).mapError .noPerson
  match console.format with
  | .text => printLine (shownPerson console person)
  | .json => printLine (Json.object [("person", .ofOption Person.toJson person)]).render

/-! ## The demonstration -/

/-- An employee that nothing is known of. -/
def blankEmployee (id : String) : Employee := { id }

/-- The employee that the demonstration ends with. -/
def staffedEmployee (id : String) : Employee :=
  { id
    person := some { firstname := "Homer", lastname := "Simpson" }
    friends :=
      [{ firstname := "Carl", lastname := "Carlson" },
        { firstname := "Lenny", lastname := "Leonard" }]
    people := PersonSet.ofList [{ firstname := "Apu", lastname := "Nahasapeemapetilon" }] }

/-- What the demonstration shows. -/
structure Walkthrough where
  afterInsert : Row
  afterUpdate : Row
  loaded : Employee

/-- The stored row of an employee. -/
def employeeRow (id : String) : Action Keyspace CommandError Row := do
  let columns := Employee.layout.columns.map (·.name)
  let row ← (Repository.selectRow Employee.layout.name id columns).mapError .mapping
  pure (row.getD ∅)

/-- Saves an employee, changes it, and loads it again. -/
def walkThrough (repository : Repository FieldType) (id : String) :
    Action Keyspace CommandError Walkthrough := do
  (repository.prepare Employee.entity).mapError .mapping
  (repository.insert Employee.entity (blankEmployee id)).mapError .mapping
  let afterInsert ← employeeRow id
  -- The second time the employee takes the place of the first one.
  let employee := staffedEmployee id
  (repository.update Employee.entity employee).mapError .mapping
  let afterUpdate ← employeeRow id
  match ← (repository.selectOne Employee.entity id).mapError .mapping with
  | none => Action.fail (.vanished id)
  | some loaded =>
    if loaded = employee then pure { afterInsert, afterUpdate, loaded }
    else Action.fail .differs

/-- The short names of the types that have a converter, in order. -/
def converterNames (registry : Registry FieldType) : List String :=
  (registry.types.map fun type => TypeName.short (typeName type)).mergeSort

/-- What the demonstration found, as JSON. -/
def reportJson (keyspace : Keyspace) (registry : Registry FieldType) (found : Walkthrough) : Json :=
  .object
    [("keyspace", .string keyspace.name),
      ("converters", .array ((converterNames registry).map .string)),
      ("blank_source_is_absent", .bool registry.options.blankIsAbsent),
      ("after_insert", found.afterInsert.toJson), ("after_update", found.afterUpdate.toJson),
      ("loaded", found.loaded.toJson)]

/-- The lines that show a row under a label. -/
def rowLines (console : Console) (label : String) (row : Row) : List String :=
  console.style .cyan label ::
    row.toList.map fun (column, cell) =>
      "  " ++ console.style .bold column ++ " = " ++ cell.toJson.render

/-- The lines that show what the demonstration found. -/
def reportLines (console : Console) (keyspace : Keyspace) (registry : Registry FieldType)
    (found : Walkthrough) : List String :=
  ["Keyspace " ++ console.style .bold keyspace.name,
    "Converters " ++ console.style .yellow (", ".intercalate (converterNames registry)) ++
      " (blank source is absent: " ++
      (if registry.options.blankIsAbsent then "true" else "false") ++ ")"] ++
    rowLines console "after insert" found.afterInsert ++
    rowLines console "after update" found.afterUpdate ++
    [console.style .boldGreen "✓" ++ " Loaded " ++ console.style .yellow found.loaded.id ++
      " with " ++ Text.ofInt found.loaded.friends.length ++ " friends and " ++
      Text.ofInt found.loaded.people.size ++ " people"]

/-- Saves, changes and loads an employee, and shows what was stored. -/
def demo (settings : AppSettings) (id : String) (console : Console) :
    Report CommandError Unit := do
  let registry ← (staffRegistry settings.conversion).mapError .registry
  let keyspace ← (Keyspace.openEmpty settings.keyspace).mapError .store
  let repository : Repository FieldType := { registry, settings := settings.keyspace }
  let (found, keyspace) ← Action.inside keyspace (walkThrough repository id)
  match console.format with
  | .json => printLine (reportJson keyspace registry found).canonical.renderIndented
  | .text => (reportLines console keyspace registry found).forM printLine

end Commands

/-! ## Requests -/

/-- Loads the settings from a file, or takes the usual ones if no file is named. -/
def AppSettings.load (lookUp : FileLookup) : Option String → Report CommandError AppSettings
  | none => pure {}
  | some path => do
    let text ← Action.ofExcept ((lookUp path).mapError (.unreadable path))
    match (Toml.parse text).bind AppSettings.ofToml with
    | none => Action.fail (.noSettings path)
    | some settings => do
      Action.ofExcept (settings.keyspace.validate.mapError .store)
      Action.log .debug "typeconv::config" "config loaded"
        [("path", .bare path), ("keyspace", .bare settings.keyspace.name)]
      pure settings

/-- Runs a command. -/
def Command.run (settings : AppSettings) (console : Console) :
    Command → Report CommandError Unit
  | encode firstname lastname => Commands.encode settings { firstname, lastname } console
  | decode stored => Commands.decode settings stored console
  | demo id => Commands.demo settings id console

/-- Loads the settings of a request and runs its command. -/
def Request.run (lookUp : FileLookup) (colored : Bool) (request : Request) :
    Report CommandError Unit := do
  let settings ← AppSettings.load lookUp request.config
  request.command.run settings { format := request.format, colored }

/-! ## What is seen -/

/-- The least level of the log lines that a request shows. -/
def Request.level (request : Request) : Level := if request.verbose then .debug else .info

/-- What a console shows of an event, where log lines below a level are left out. -/
def Event.shown (least : Level) : Event → String
  | print text => text
  | log entry => if least.rank ≤ entry.level.rank then entry.alignedLine ++ "\n" else ""
  | readerCall _ _ => ""

/-- What a console shows of an event if it shows no log lines. -/
def Event.printed : Event → String
  | print text => text
  | _ => ""

end Cellwise

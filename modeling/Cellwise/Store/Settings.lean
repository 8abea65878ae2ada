import Cellwise.Json.Record
import Cellwise.Store.Name

/-!
# Keyspace settings
-/

namespace Cellwise

/-- How a keyspace is opened and how its tables are prepared. -/
structure KeyspaceSettings where
  name : String := "kcc"
  /-- Is the table of an entity created when it is missing? -/
  createTables : Bool := true
  /-- Does preparing the table of an entity remove its rows? -/
  truncateOnSetup : Bool := true
  deriving DecidableEq, Repr

namespace KeyspaceSettings

/-- The usual settings for a keyspace of some name. -/
def named (name : String) : KeyspaceSettings := { name }

/-- Checks the name of the keyspace. -/
def validate (settings : KeyspaceSettings) : Except StoreError Unit :=
  KeyspaceName.check settings.name

/-! ## JSON form -/

/-- Settings that are being read. -/
structure Partial where
  name : Option String := none
  createTables : Option Bool := none
  truncateOnSetup : Option Bool := none

/-- The settings with the usual values for what was not given. -/
def Partial.complete (state : Partial) : KeyspaceSettings :=
  let usual : KeyspaceSettings := {}
  { name := state.name.getD usual.name
    createTables := state.createTables.getD usual.createTables
    truncateOnSetup := state.truncateOnSetup.getD usual.truncateOnSetup }

/-- How settings are read. -/
def recordForm : Json.RecordForm Partial KeyspaceSettings where
  title := "struct KeyspaceConfig"
  start := {}
  slots :=
    [.ofOption "name" (·.name) (fun name state => { state with name }) Json.Form.read,
      .ofOption "create_tables" (·.createTables)
        (fun createTables state => { state with createTables }) Json.Form.read,
      .ofOption "truncate_on_setup" (·.truncateOnSetup)
        (fun truncateOnSetup state => { state with truncateOnSetup }) Json.Form.read]
  mayEndEarly := true
  finish state := .ok state.complete

/-- Settings as JSON. -/
def toJson (settings : KeyspaceSettings) : Json :=
  .object
    [("name", .string settings.name), ("create_tables", .bool settings.createTables),
      ("truncate_on_setup", .bool settings.truncateOnSetup)]

instance : Json.Form KeyspaceSettings where
  encode settings := .ok settings.toJson
  read := recordForm.read

end KeyspaceSettings

end Cellwise

import Cellwise.Convert.Options
import Cellwise.Store.Settings
import Cellwise.Toml.Record

/-!
# The settings of the program

The settings have a part for the keyspace and a part for the registry of converters. They are read
from JSON or from TOML, and what is not given has its usual value.
-/

namespace Cellwise

/-- The settings of the program. -/
structure AppSettings where
  keyspace : KeyspaceSettings := {}
  conversion : RegistryOptions := {}
  deriving DecidableEq, Repr

/-! ## JSON form -/

namespace AppSettings

/-- Settings that are being read. -/
structure Partial where
  keyspace : Option KeyspaceSettings := none
  conversion : Option RegistryOptions := none

/-- How settings are read. -/
def recordForm : Json.RecordForm Partial AppSettings where
  title := "struct AppConfig"
  start := {}
  slots :=
    [.ofOption "keyspace" (·.keyspace) (fun keyspace state => { state with keyspace })
        Json.Form.read,
      .ofOption "conversion" (·.conversion) (fun conversion state => { state with conversion })
        Json.Form.read]
  mayEndEarly := true
  finish state :=
    let usual : AppSettings := {}
    .ok
      { keyspace := state.keyspace.getD usual.keyspace
        conversion := state.conversion.getD usual.conversion }

/-- Settings as JSON. -/
def toJson (settings : AppSettings) : Json :=
  .object
    [("keyspace", settings.keyspace.toJson), ("conversion", settings.conversion.toJson)]

instance : Json.Form AppSettings where
  encode settings := .ok settings.toJson
  read := recordForm.read

end AppSettings

/-! ## TOML form -/

/-- The settings of a keyspace from a document. -/
def KeyspaceSettings.ofToml (document : Toml) : Option KeyspaceSettings :=
  if document.isRecord then do
    let usual : KeyspaceSettings := {}
    let name ← document.fieldOr 0 "name" usual.name Toml.text?
    let createTables ← document.fieldOr 1 "create_tables" usual.createTables Toml.flag?
    let truncateOnSetup ←
      document.fieldOr 2 "truncate_on_setup" usual.truncateOnSetup Toml.flag?
    pure { name, createTables, truncateOnSetup }
  else none

/-- The options of a registry from a document. -/
def RegistryOptions.ofToml (document : Toml) : Option RegistryOptions :=
  if document.isRecord then do
    let usual : RegistryOptions := {}
    let blankIsAbsent ←
      document.fieldOr 0 "blank_source_is_absent" usual.blankIsAbsent Toml.flag?
    pure { blankIsAbsent }
  else none

/-- The settings of the program from a document. -/
def AppSettings.ofToml (document : Toml) : Option AppSettings :=
  if document.isRecord then do
    let keyspace ← document.fieldOr 0 "keyspace" {} KeyspaceSettings.ofToml
    let conversion ← document.fieldOr 1 "conversion" {} RegistryOptions.ofToml
    pure { keyspace, conversion }
  else none

end Cellwise

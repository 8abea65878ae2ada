import Cellwise.Entity.Reading
import Cellwise.Entity.Writing
import Cellwise.Store.Keyspace

/-!
# Repositories

An entity is saved as one row of a table. `Entity` says which table that is, how the row is written
and how it is read. A `Repository` saves and loads entities in a keyspace with the converters of a
registry: the whole row is written before the keyspace is touched.

* `Repository.insert` changes the columns that the entity has something for.
* `Repository.update` puts the entity in the place of what was saved before.
-/

namespace Cellwise

/-- How values of a type are saved as rows. -/
structure Entity (κ : Type) [FieldFamily κ] (α : Type) where
  /-- The table of the entity. -/
  layout : TableLayout
  /-- The key of the row. -/
  key : α → String
  /-- The calls that write the row. -/
  writes : α → List (WriteCall κ)
  /-- The plan that reads the row. -/
  reads : ReadPlan κ α

/-- What it takes to save and load entities in a keyspace. -/
structure Repository (κ : Type) [FieldFamily κ] where
  registry : Registry κ
  settings : KeyspaceSettings

namespace Repository

variable {κ : Type} [FieldFamily κ] {α : Type}

/-- An action of a repository on its keyspace. -/
abbrev RepositoryAction (α : Type) := Action Keyspace MappingError α

/-- Where repositories note what they do. -/
def logTarget : String := "typeconv_mapping::template"

/-- Lets the keyspace do something. -/
def onKeyspace (action : StoreAction α) : RepositoryAction α := action.mapError .store

/-- Makes the table of an entity ready: creates it and removes its rows, as the settings say. -/
def prepare (repository : Repository κ) (entity : Entity κ α) : RepositoryAction Unit := do
  if repository.settings.createTables then
    let _ ← onKeyspace (Keyspace.createTable entity.layout)
  if repository.settings.truncateOnSetup then
    onKeyspace (Keyspace.truncate entity.layout.name)

/-- The row of an entity. -/
def toRow (repository : Repository κ) (entity : Entity κ α) (value : α) : Report MappingError Row :=
  Row.ofCalls repository.registry (entity.writes value)

/-- The entity of a row. -/
def fromRow (repository : Repository κ) (entity : Entity κ α) (row : Row) : Report MappingError α :=
  entity.reads.run repository.registry row

/-- Notes that a row is about to be saved. -/
def logSaving (message : String) (entity : Entity κ α) (value : α) (row : Row) :
    RepositoryAction Unit :=
  Action.log .debug logTarget message
    [("table", .bare entity.layout.name), ("key", .quoted (entity.key value)),
      ("columns", .number row.size)]

/-- Saves an entity. Columns that it has nothing for stay as they are. -/
def insert (repository : Repository κ) (entity : Entity κ α) (value : α) :
    RepositoryAction Unit := do
  -- No conversion is left to fail once the keyspace is asked.
  let row ← Action.ofReport (repository.toRow entity value)
  logSaving "insert" entity value row
  onKeyspace (Keyspace.upsert entity.layout.name row)

/-- Saves an entity in the place of what was saved before. -/
def update (repository : Repository κ) (entity : Entity κ α) (value : α) :
    RepositoryAction Unit := do
  let row ← Action.ofReport (repository.toRow entity value)
  logSaving "update" entity value row
  onKeyspace (Keyspace.replace entity.layout.name row)

/-- Loads the entity of a row, if there is a row. -/
def load (repository : Repository κ) (entity : Entity κ α) :
    Option Row → RepositoryAction (Option α)
  | none => pure none
  | some row => do
    let value ← Action.ofReport (repository.fromRow entity row)
    pure (some value)

/-- Loads the entity that is saved under a key. -/
def selectOne (repository : Repository κ) (entity : Entity κ α) (key : String) :
    RepositoryAction (Option α) := do
  let row ← onKeyspace (Keyspace.select entity.layout.name key none)
  repository.load entity row

/-- Loads the entity that is saved under a key from some of its columns. -/
def selectOneColumns (repository : Repository κ) (entity : Entity κ α) (key : String)
    (columns : List String) : RepositoryAction (Option α) := do
  let row ← onKeyspace (Keyspace.select entity.layout.name key (some columns))
  repository.load entity row

/-- Some columns of a stored row, as they are. -/
def selectRow (table key : String) (columns : List String) : RepositoryAction (Option Row) :=
  onKeyspace (Keyspace.select table key (some columns))

end Repository

end Cellwise

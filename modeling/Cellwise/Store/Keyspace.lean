import Cellwise.Action
import Cellwise.Row.Basic
import Cellwise.Store.Layout
import Cellwise.Store.Settings

/-!
# Keyspaces

A keyspace holds tables under their names, and a table holds rows under their keys. Rows come in by
`upsert`, which changes the columns that a row mentions, and by `replace`, which leaves nothing of
the row before. Either way an empty list or set stands for a column without a cell.

A row is taken only if the layout declares each of its columns with the kind of the cell, and if it
has a text in the key column: that text is the key it is filed under.
-/

namespace Cellwise

/-- A table: its layout, and its rows under their keys. -/
structure Table where
  layout : TableLayout
  rows : Std.ExtTreeMap String Row
  deriving DecidableEq

/-- A keyspace: its name, and its tables under their names. -/
structure Keyspace where
  name : String
  tables : Std.ExtTreeMap String Table
  deriving DecidableEq

namespace Table

/-- Checks one cell of a row against the layout. -/
def checkCell (table : Table) (column : String) (cell : Cell) : Except StoreError Unit :=
  match table.layout.find? column with
  | none => .error (.unknownColumn table.layout.name column)
  | some declared =>
    if declared.kind = cell.kind then .ok ()
    else .error (.kindMismatch table.layout.name column declared.kind cell.kind)

/-- Checks a row, column by column in the order of names and then for its key, which is the
answer. -/
def checkRow (table : Table) (row : Row) : Except StoreError String := do
  row.toList.forM fun (column, cell) => table.checkCell column cell
  match row.text? table.layout.keyColumn with
  | some key => pure key
  | none => throw (.missingKey table.layout.name table.layout.keyColumn)

/-- Checks that every listed column is declared, in the order of the list. -/
def checkColumns (table : Table) (columns : List String) : Except StoreError Unit :=
  match columns.find? fun column => (table.layout.find? column).isNone with
  | some column => .error (.unknownColumn table.layout.name column)
  | none => .ok ()

end Table

namespace Row

/-- Writes one cell over a row; an empty collection removes the column. -/
def merge (stored : Row) (column : String) (cell : Cell) : Row :=
  if cell.isEmptyCollection then stored.erase column else stored.insert column cell

/-- Writes the cells of a row over another row. -/
def mergeAll (stored row : Row) : Row :=
  row.toList.foldl (fun stored (column, cell) => stored.merge column cell) stored

/-- The row without its empty collections. -/
def image (row : Row) : Row := row.filter fun _ cell => !cell.isEmptyCollection

end Row

/-- An action on a keyspace. -/
abbrev StoreAction (α : Type) := Action Keyspace StoreError α

namespace Keyspace

/-- Where keyspaces note what they do. -/
def logTarget : String := "typeconv_mapping::memory"

/-- Opens an empty keyspace, if its name is accepted. -/
def openEmpty (settings : KeyspaceSettings) : Report StoreError Keyspace := do
  Action.ofExcept settings.validate
  Action.log .info logTarget "keyspace opened" [("keyspace", .bare settings.name)]
  pure { name := settings.name, tables := ∅ }

/-- The names of the tables, in order. -/
def tableNames (keyspace : Keyspace) : List String := keyspace.tables.keys

/-- The table of a name. -/
def findTable (name : String) : StoreAction Table := do
  let keyspace ← Action.get
  match keyspace.tables[name]? with
  | some table => pure table
  | none => Action.fail (.tableNotFound name)

/-- Puts a table in the place of the one of its name. -/
def putTable (name : String) (table : Table) : StoreAction Unit :=
  Action.modify fun keyspace => { keyspace with tables := keyspace.tables.insert name table }

/-- Creates a table, unless there is one of that name. Answers whether it was created. -/
def createTable (layout : TableLayout) : StoreAction Bool := do
  let keyspace ← Action.get
  -- A table that is there already keeps its own layout.
  if keyspace.tables.contains layout.name then pure false
  else
    Action.log .debug logTarget "table created"
      [("keyspace", .bare keyspace.name), ("table", .bare layout.name)]
    putTable layout.name { layout, rows := ∅ }
    pure true

/-- Removes a table with its rows. Answers whether there was one. -/
def dropTable (name : String) : StoreAction Bool := do
  let keyspace ← Action.get
  Action.modify fun keyspace => { keyspace with tables := keyspace.tables.erase name }
  pure (keyspace.tables.contains name)

/-- Removes the rows of a table. -/
def truncate (name : String) : StoreAction Unit := do
  let table ← findTable name
  Action.log .debug logTarget "table truncated"
    [("table", .quoted name), ("removed", .number table.rows.size)]
  putTable name { table with rows := ∅ }

/-- Changes the columns that a row mentions in the stored row of its key. -/
def upsert (name : String) (row : Row) : StoreAction Unit := do
  let table ← findTable name
  -- The whole row is accepted before anything is stored.
  let key ← Action.ofExcept (table.checkRow row)
  let stored := table.rows.getD key ∅
  putTable name { table with rows := table.rows.insert key (stored.mergeAll row) }

/-- Puts a row in the place of the stored row of its key. -/
def replace (name : String) (row : Row) : StoreAction Unit := do
  let table ← findTable name
  let key ← Action.ofExcept (table.checkRow row)
  putTable name { table with rows := table.rows.insert key row.image }

/-- The stored row of a key, restricted to some columns if any are named. -/
def select (name key : String) (columns : Option (List String)) : StoreAction (Option Row) := do
  let table ← findTable name
  match columns with
  | none => pure table.rows[key]?
  | some columns =>
    -- Columns are checked even if there is no such row.
    Action.ofExcept (table.checkColumns columns)
    pure (table.rows[key]?.map fun row => row.project columns)

/-- The number of rows of a table. -/
def count (name : String) : StoreAction Nat := do
  let table ← findTable name
  pure table.rows.size

end Keyspace

end Cellwise

import Cellwise.Row.Cell

/-!
# Table layouts

The layout of a table names the table, its key column, and the columns that a row may have with
the kinds of their cells. Where a name is declared twice, the first declaration counts.
-/

namespace Cellwise

/-- A declared column. -/
structure Column where
  name : String
  kind : CellKind
  deriving DecidableEq, Repr

/-- The layout of a table. -/
structure TableLayout where
  name : String
  keyColumn : String
  columns : List Column
  deriving DecidableEq, Repr

namespace TableLayout

/-- A table whose only column is a text key. -/
def ofKey (name keyColumn : String) : TableLayout :=
  { name, keyColumn, columns := [⟨keyColumn, .text⟩] }

/-- The layout with one more column behind the others. -/
def addColumn (layout : TableLayout) (name : String) (kind : CellKind) : TableLayout :=
  { layout with columns := layout.columns ++ [⟨name, kind⟩] }

/-- The first declaration of a column. -/
def find? (layout : TableLayout) (name : String) : Option Column :=
  layout.columns.find? fun column => column.name = name

/-- The names of the columns other than the key column. -/
def valueColumns (layout : TableLayout) : List String :=
  (layout.columns.map (·.name)).filter (· ≠ layout.keyColumn)

end TableLayout

/-! ## JSON form -/

namespace Column

/-- A column that is being read. -/
structure Partial where
  name : Option String := none
  kind : Option CellKind := none

/-- How a column is read. -/
def recordForm : Json.RecordForm Partial Column where
  title := "struct ColumnSpec"
  start := {}
  slots :=
    [.ofOption "name" (·.name) (fun name state => { state with name }) Json.Form.read,
      .ofOption "kind" (·.kind) (fun kind state => { state with kind }) Json.Form.read]
  mayEndEarly := false
  finish state := do
    let name ← Json.require "name" state.name
    let kind ← Json.require "kind" state.kind
    pure { name, kind }

/-- A column as JSON. -/
def toJson (column : Column) : Json :=
  .object [("name", .string column.name), ("kind", .string column.kind.name)]

instance : Json.Form Column where
  encode column := .ok column.toJson
  read := recordForm.read

end Column

namespace TableLayout

/-- A layout that is being read. -/
structure Partial where
  name : Option String := none
  keyColumn : Option String := none
  columns : Option (List Column) := none

/-- How a layout is read. -/
def recordForm : Json.RecordForm Partial TableLayout where
  title := "struct TableSpec"
  start := {}
  slots :=
    [.ofOption "name" (·.name) (fun name state => { state with name }) Json.Form.read,
      .ofOption "key_column" (·.keyColumn) (fun keyColumn state => { state with keyColumn })
        Json.Form.read,
      .ofOption "columns" (·.columns) (fun columns state => { state with columns })
        Json.Form.read]
  mayEndEarly := false
  finish state := do
    let name ← Json.require "name" state.name
    let keyColumn ← Json.require "key_column" state.keyColumn
    let columns ← Json.require "columns" state.columns
    pure { name, keyColumn, columns }

/-- A layout as JSON. -/
def toJson (layout : TableLayout) : Json :=
  .object
    [("name", .string layout.name), ("key_column", .string layout.keyColumn),
      ("columns", .array (layout.columns.map Column.toJson))]

instance : Json.Form TableLayout where
  encode layout := .ok layout.toJson
  read := recordForm.read

end TableLayout

end Cellwise

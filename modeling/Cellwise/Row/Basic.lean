import Std.Data.ExtTreeMap
import Cellwise.Row.Cell

/-!
# Rows

A row maps the names of its columns to cells. Names are in the order of code points, and rows with
the same cells are equal.
-/

namespace Cellwise

/-- A stored record. -/
abbrev Row := Std.ExtTreeMap String Cell

namespace Row

/-- The text of a text cell in a column. -/
def text? (row : Row) (column : String) : Option String := row[column]?.bind Cell.text?

/-- The items of a list cell in a column. -/
def list? (row : Row) (column : String) : Option (List String) :=
  match row[column]? with
  | some (.list items) => some items
  | _ => none

/-- The items of a set cell in a column. -/
def set? (row : Row) (column : String) : Option TextSet :=
  match row[column]? with
  | some (.set items) => some items
  | _ => none

/-- The names of the columns. -/
def columns (row : Row) : List String := row.keys

/-- The row restricted to some columns. -/
def project (row : Row) (columns : List String) : Row :=
  row.filter fun column _ => columns.contains column

/-- A row as a JSON object. -/
def toJson (row : Row) : Json :=
  .object (row.toList.map fun (column, cell) => (column, cell.toJson))

end Row

end Cellwise

import Std.Data.ExtTreeSet
import Cellwise.Json.Record

/-!
# Cells

What a column of a row holds: one text, a list of texts, or a set of texts. A set lists its items
in the order of code points, without repetition. A column that holds nothing is not in the row.
-/

namespace Cellwise

/-- The kinds of cells. -/
inductive CellKind where
  | text
  | list
  | set
  deriving DecidableEq, Repr

namespace CellKind

/-- The short name of a kind, as layouts are written. -/
def name : CellKind → String
  | text => "text"
  | list => "list"
  | set => "set"

/-- The name of a kind in messages. -/
def describe : CellKind → String
  | text => "text"
  | list => "list<text>"
  | set => "set<text>"

/-- The kinds under their names. -/
def variants : Json.Variants CellKind :=
  [text, list, set].map fun kind => (kind.name, .nothing kind)

instance : Json.Form CellKind where
  encode kind := .ok (.string kind.name)
  read := variants.read

end CellKind

/-- A set of texts. -/
abbrev TextSet := Std.ExtTreeSet String

/-- What a column holds. -/
inductive Cell where
  | text (content : String)
  | list (items : List String)
  | set (items : TextSet)
  deriving DecidableEq

namespace Cell

/-- The kind of a cell. -/
def kind : Cell → CellKind
  | text _ => .text
  | list _ => .list
  | set _ => .set

/-- The text of a text cell. -/
def text? : Cell → Option String
  | text content => some content
  | _ => none

/-- The number of items; a text counts as one. -/
def size : Cell → Nat
  | text _ => 1
  | list items => items.length
  | set items => items.size

/-- Is the cell a list or a set without items? -/
def isEmptyCollection (cell : Cell) : Bool := cell.size = 0

/-- A cell as JSON: a string, or an array of the items in their order. -/
def toJson : Cell → Json
  | text content => .string content
  | list items => .array (items.map .string)
  | set items => .array (items.toList.map .string)

end Cell

end Cellwise

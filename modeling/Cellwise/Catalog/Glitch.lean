import Cellwise.Catalog.FieldType
import Cellwise.Entity.Repository

/-!
# Entities that go wrong

A `Glitch` is saved in a way that its mode disturbs: it leaves out its key, writes a cell of the
wrong kind, writes to a column that its table does not have, holds a value that has no stored text,
or writes its key twice. It is read in a way that fails as soon as it has items.
-/

namespace Cellwise

/-- An entity whose mode says what goes wrong. -/
structure Glitch where
  id : String
  mode : String
  deriving DecidableEq, Repr

namespace Glitch

/-- The table of glitches. -/
def layout : TableLayout :=
  ((TableLayout.ofKey "glitch" "id").addColumn "mode" .text).addColumn "items" .list

/-- The value that the mode `picky` tries to write. -/
def refused : Picky := { n := -1 }

/-- What a mode writes behind the mode itself. -/
def disturbance (mode : String) : List (WriteCall FieldType) :=
  if mode = "kind" then [.scalar "items" FieldType.string (some mode)]
  else if mode = "unknown" then [.scalar "ghost" FieldType.string (some mode)]
  else if mode = "picky" then [.scalar "items" FieldType.picky (some refused)]
  else if mode = "list_key" then [.list "id" FieldType.string [mode]]
  else if mode = "rekey" then [.key "id" "other"]
  else []

/-- How glitches are saved. -/
def entity : Entity FieldType Glitch where
  layout
  key glitch := glitch.id
  writes glitch :=
    (if glitch.mode = "no_key" then [] else [.key "id" glitch.id]) ++
      .scalar "mode" FieldType.string (some glitch.mode) :: disturbance glitch.mode
  reads := do
    let _ ← ReadPlan.getScalar "items" FieldType.string
    let id ← ReadPlan.getKey "id"
    let mode ← ReadPlan.getScalar "mode" FieldType.string
    pure { id, mode := mode.getD "" }

/-- A glitch as JSON. -/
def toJson (glitch : Glitch) : Json :=
  .object [("id", .string glitch.id), ("mode", .string glitch.mode)]

end Glitch

end Cellwise

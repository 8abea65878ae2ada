import Cellwise.Catalog.FieldType
import Cellwise.Entity.Repository

/-!
# Badges

A badge has a label or none. It is saved in the table `badge` under its id, the label in a text.
-/

namespace Cellwise

/-- A badge. -/
structure Badge where
  id : String
  label : Option String
  deriving DecidableEq, Repr

namespace Badge

/-- How badges are saved. -/
def entity : Entity FieldType Badge where
  layout := (TableLayout.ofKey "badge" "id").addColumn "label" .text
  key badge := badge.id
  writes badge := [.key "id" badge.id, .scalar "label" FieldType.string badge.label]
  reads := do
    let id ← ReadPlan.getKey "id"
    let label ← ReadPlan.getScalar "label" FieldType.string
    pure { id, label }

/-- A badge as JSON. -/
def toJson (badge : Badge) : Json :=
  .object
    [("id", .string badge.id),
      ("label", .ofOption .string badge.label)]

end Badge

end Cellwise

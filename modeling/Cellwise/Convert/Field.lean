import Cellwise.Json.Form

/-!
# Field types

The types that a field of an entity may have. A family of field types is a type of codes: two
codes stand for the same type exactly when they are equal, and every code has a name, values, a
JSON form, and a notion of when two values are one element of a set.
-/

namespace Cellwise

/-- A family of field types, identified by codes. -/
class FieldFamily (κ : Type) where
  decideEq : DecidableEq κ
  /-- The full name of the type. -/
  typeName : κ → String
  /-- The values of the type. -/
  Value : κ → Type
  /-- The JSON form of the type. -/
  form : (k : κ) → Json.Form (Value k)
  /-- Are two values one and the same element of a set? -/
  same : (k : κ) → Value k → Value k → Bool

namespace FieldFamily

variable {κ : Type} [FieldFamily κ]

instance (priority := low) : DecidableEq κ := decideEq

instance (k : κ) : Json.Form (Value k) := form k

/-- The elements of a set that values make up; of values that are one element, the first stays. -/
def distinct (k : κ) (values : List (Value k)) : List (Value k) := values.eraseDupsBy (same k)

end FieldFamily

export FieldFamily (typeName Value)

end Cellwise

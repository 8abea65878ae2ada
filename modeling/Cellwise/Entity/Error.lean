import Cellwise.Convert.Error
import Cellwise.Store.Error

/-!
# Failures of saving and loading
-/

namespace Cellwise

/-- Why an entity cannot be saved or loaded. -/
inductive MappingError where
  | store (error : StoreError)
  /-- The converter of a field type gave up. -/
  | conversion (error : RegistryError)
  /-- A field type without converter has no default form for this value or text. -/
  | default (column reason : String)
  | missingColumn (column : String)
  | unexpectedCell (column : String) (expected actual : CellKind)

/-- The wording of a failure. -/
def MappingError.message : MappingError → String
  | store error => "store error: " ++ error.message
  | conversion error => "conversion error: " ++ error.message
  | default column reason =>
    "default conversion failed for column " ++ column ++ ": " ++ reason
  | missingColumn column => "column " ++ column ++ " is null"
  | unexpectedCell column expected actual =>
    "column " ++ column ++ " holds a " ++ actual.describe ++ " cell, expected " ++
      expected.describe

end Cellwise

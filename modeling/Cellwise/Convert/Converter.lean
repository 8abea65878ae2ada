import Cellwise.Convert.Field
import Cellwise.Convert.Error
import Cellwise.Convert.TypeName

/-!
# Converters

A converter turns stored text into values of one type and back. `Converter.json` is the one that
follows the JSON form of the type.
-/

namespace Cellwise

/-- A reader and a writer for the values of one field type. -/
structure Converter {κ : Type} [FieldFamily κ] (k : κ) where
  read : String → Except Cause (Value k)
  write : Value k → Except Cause String

namespace Converter

variable {κ : Type} [FieldFamily κ]

/-- Stores values as JSON text, with members in the order of declaration. -/
def json (k : κ) : Converter k where
  read source := (Json.parse source).mapError .json
  write value := (Json.print value).mapError .text

/-- How a converter shows itself. -/
def describe {k : κ} (_ : Converter k) : String :=
  "ConverterPair \x7b type: " ++ Text.quoted (typeName k) ++ " \x7d"

end Converter

end Cellwise

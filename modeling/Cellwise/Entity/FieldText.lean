import Cellwise.Convert.Registry
import Cellwise.Entity.Error

/-!
# Field values as stored text

A field value is written and read by the converter of its type. A type without a converter takes
the default form: a value whose JSON is a string is stored as that string, bare, and any other
value as its JSON text with members in canonical order. Reading undoes this: a stored text counts
as JSON text if it reads as a value of the type that is not written as a bare string, and as a bare
string otherwise.
-/

namespace Cellwise

variable {κ : Type} [FieldFamily κ]

/-! ## The default form -/

/-- The stored text of JSON: the content of a string, the canonical text of anything else. -/
def Json.storedText : Json → String
  | .string s => s
  | json => json.canonical.render

/-- The default text of a value, or why there is none. -/
def defaultText (k : κ) (value : Value k) : Except String String := do
  let json ← Json.Form.encode value
  pure json.storedText

/-- Is the value written as a bare string? -/
def isWrittenBare (k : κ) (value : Value k) : Bool :=
  match Json.Form.encode value with
  | .ok json => json.isString
  | .error _ => false

/-- Reads a text as the content of a string. -/
def readBare (k : κ) (stored : String) : Except Json.Fault (Value k) :=
  Json.parse (String.ofList (Json.stringChars stored))

/-- Reads a text that holds the default form of a value. -/
def readDefault (k : κ) (stored : String) : Except Json.Fault (Value k) :=
  match Json.parse stored with
  | .ok value =>
    -- The text of a value that is written bare is the string itself, whatever it looks like.
    if isWrittenBare k value then readBare k stored else .ok value
  | .error _ => readBare k stored

/-! ## With a registry -/

/-- The stored text of a field value. -/
def encodeField (registry : Registry κ) (column : String) (k : κ) (value : Value k) :
    Except MappingError String :=
  match registry.write k value with
  | .ok stored => .ok stored
  | .error (.noConverter _) => (defaultText k value).mapError (.default column)
  | .error error => .error (.conversion error)

/-- The field value of a stored text; a converter may read it as absent. -/
def decodeField (registry : Registry κ) (column : String) (k : κ) (stored : String) :
    Report MappingError (Option (Value k)) := do
  match ← Action.attempt (registry.read k stored) with
  | .ok value => pure value
  | .error (.noConverter _) =>
    let value ← Action.ofExcept
      ((readDefault k stored).mapError fun fault => .default column fault.message)
    pure (some value)
  | .error error => Action.fail (.conversion error)

end Cellwise

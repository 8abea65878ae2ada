import Cellwise.Text.Characters
import Cellwise.Decimal.Notation

/-!
# Why a JSON text is not a value of a type

A reader meets the text from left to right and stops at the first fault: the text ends too early,
it is no JSON, or it is JSON of another shape than the one asked for.
-/

namespace Cellwise.Json

open Cellwise.Text (quoted ofInt)

/-- What a reader found in the place of what it wanted. -/
inductive Found where
  | bool (b : Bool)
  | integer (n : Int)
  | float (x : Float)
  | string (s : String)
  | null
  | sequence
  | map
  | unitVariant
  deriving DecidableEq

/-- A JSON text of the wrong shape. -/
inductive Mismatch where
  | invalidType (found : Found) (expected : String)
  | invalidValue (found : Found) (expected : String)
  | invalidLength (length : Nat) (expected : String)
  | missingField (name : String)
  | duplicateField (name : String)
  | unknownVariant (name : String) (known : List String)
  | custom (text : String)
  deriving DecidableEq

/-- The first fault that a reader meets. -/
inductive Fault where
  | unfinished
  | malformed
  | mismatch (what : Mismatch)
  deriving DecidableEq

/-- A text between backquotes. -/
def ticked (text : String) : String := "`" ++ text ++ "`"

/-- How a message names what was found. -/
def Found.describe : Found → String
  | .bool b => "boolean " ++ ticked (if b then "true" else "false")
  | .integer n => "integer " ++ ticked (ofInt n)
  | .float x => "floating point " ++ ticked (String.ofList (Decimal.floatChars x))
  | .string s => "string " ++ quoted s
  | .null => "null"
  | .sequence => "sequence"
  | .map => "map"
  | .unitVariant => "unit variant"

/-- The wording of a mismatch. -/
def Mismatch.message : Mismatch → String
  | .invalidType found expected =>
    "invalid type: " ++ found.describe ++ ", expected " ++ expected
  | .invalidValue found expected =>
    "invalid value: " ++ found.describe ++ ", expected " ++ expected
  | .invalidLength length expected =>
    "invalid length " ++ ofInt length ++ ", expected " ++ expected
  | .missingField name => "missing field " ++ ticked name
  | .duplicateField name => "duplicate field " ++ ticked name
  | .unknownVariant name known =>
    "unknown variant " ++ ticked name ++ ", expected one of " ++
      ", ".intercalate (known.map ticked)
  | .custom text => text

/-- The wording of a fault. -/
def Fault.message : Fault → String
  | .unfinished => "json eof"
  | .malformed => "json syntax"
  | .mismatch what => what.message

end Cellwise.Json

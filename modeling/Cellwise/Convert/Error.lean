import Cellwise.Json.Fault

/-!
# Failures of conversion
-/

namespace Cellwise

/-- The way a conversion goes: from stored text to a value, or from a value to stored text. -/
inductive Direction where
  | read
  | write
  deriving DecidableEq, Repr

/-- The name of a direction. -/
def Direction.name : Direction → String
  | read => "read"
  | write => "write"

mutual
/-- Why a registry cannot do what it is asked to. -/
inductive RegistryError where
  /-- The registry is put together in a way that makes no sense. -/
  | configuration (reason : String)
  /-- The type has no converter. -/
  | noConverter (type : String)
  /-- The converter of the type gave up. -/
  | conversion (type : String) (direction : Direction) (cause : Cause)

/-- Why a converter gave up. -/
inductive Cause where
  | text (text : String)
  | json (fault : Json.Fault)
  /-- The converter asked a registry in its turn. -/
  | registry (error : RegistryError)
end

mutual
/-- The wording of a failure. -/
def RegistryError.message : RegistryError → String
  | .configuration reason => "configuration error: " ++ reason
  | .noConverter type => "no custom converter registered for " ++ type
  | .conversion type direction cause =>
    direction.name ++ " conversion failed for " ++ type ++ ": " ++ cause.message

/-- The wording of a cause. -/
def Cause.message : Cause → String
  | .text text => text
  | .json fault => fault.message
  | .registry error => error.message
end

/-- Does the failure say that the type has no converter? -/
def RegistryError.isNoConverter : RegistryError → Bool
  | .noConverter _ => true
  | _ => false

end Cellwise

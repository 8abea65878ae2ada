import Cellwise.Json.Record

/-!
# The options of a registry
-/

namespace Cellwise

/-- The options of a registry. -/
structure RegistryOptions where
  /-- Does a blank source read as no value? -/
  blankIsAbsent : Bool := true
  deriving DecidableEq, Repr

namespace RegistryOptions

/-- How options are read; the usual value stands for one that is not given. -/
def recordForm : Json.RecordForm (Option Bool) RegistryOptions where
  title := "struct ConversionConfig"
  start := none
  slots :=
    [.ofOption "blank_source_is_absent" id (fun blankIsAbsent _ => blankIsAbsent) Json.Form.read]
  mayEndEarly := true
  finish state :=
    let usual : RegistryOptions := {}
    .ok { blankIsAbsent := state.getD usual.blankIsAbsent }

/-- Options as JSON. -/
def toJson (options : RegistryOptions) : Json :=
  .object [("blank_source_is_absent", .bool options.blankIsAbsent)]

instance : Json.Form RegistryOptions where
  encode options := .ok options.toJson
  read := recordForm.read

end RegistryOptions

end Cellwise

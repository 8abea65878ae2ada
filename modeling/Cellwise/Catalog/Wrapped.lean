import Cellwise.Json.Form

/-!
# Types around a simple type
-/

namespace Cellwise

/-- A name, as it is written. -/
structure Name where
  text : String
  deriving DecidableEq, Repr

instance : Json.Form Name where
  encode name := Json.Form.encode name.text
  read depth := do
    let text ← Json.Form.read depth
    pure { text }

/-- A name where the case of ASCII letters does not matter. -/
structure CiName where
  text : String
  deriving DecidableEq, Repr

/-- Are two names equal but for the case of ASCII letters? -/
def CiName.same (a b : CiName) : Bool := a.text.toLower = b.text.toLower

instance : Json.Form CiName where
  encode name := Json.Form.encode name.text
  read depth := do
    let text ← Json.Form.read depth
    pure { text }

/-- A number that is not written when it is negative and not read above a hundred. -/
structure Picky where
  n : Int64
  deriving DecidableEq, Repr

instance : Json.Form Picky where
  encode picky :=
    if picky.n < 0 then .error ("picky refuses " ++ Text.ofInt picky.n.toInt)
    else Json.Form.encode picky.n
  read depth := do
    let n : Int64 ← Json.Form.read depth
    if 100 < n then
      Json.Reader.mismatch (.custom ("picky cannot hold " ++ Text.ofInt n.toInt))
    else pure { n }

end Cellwise

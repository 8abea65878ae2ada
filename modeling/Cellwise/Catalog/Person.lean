import Std.Data.ExtTreeSet
import Cellwise.Json.Record

/-!
# Persons

A person has a first and a last name. Persons are ordered by first name, then by last name.
-/

namespace Cellwise

/-- A person. -/
structure Person where
  firstname : String
  lastname : String
  deriving DecidableEq, Repr

namespace Person

instance : Ord Person where
  compare := compareLex (compareOn firstname) (compareOn lastname)

instance : Std.TransOrd Person :=
  inferInstanceAs (Std.TransCmp (compareLex (compareOn firstname) (compareOn lastname)))

instance : Std.LawfulEqOrd Person where
  eq_of_compare := by
    intro a b h
    obtain ⟨first, last⟩ := compareLex_eq_eq.1 h
    cases a
    cases b
    simpa using ⟨Std.LawfulEqOrd.eq_of_compare first, Std.LawfulEqOrd.eq_of_compare last⟩

/-- How a person is read. -/
def recordForm : Json.RecordForm (Option String × Option String) Person where
  title := "struct Person"
  start := (none, none)
  slots :=
    [.ofOption "firstname" (·.1) (fun firstname state => (firstname, state.2)) Json.Form.read,
      .ofOption "lastname" (·.2) (fun lastname state => (state.1, lastname)) Json.Form.read]
  mayEndEarly := false
  finish state := do
    let firstname ← Json.require "firstname" state.1
    let lastname ← Json.require "lastname" state.2
    pure { firstname, lastname }

/-- A person as JSON. -/
def toJson (person : Person) : Json :=
  .object [("firstname", .string person.firstname), ("lastname", .string person.lastname)]

instance : Json.Form Person where
  encode person := .ok person.toJson
  read := recordForm.read

end Person

/-- A set of persons, in their order. -/
abbrev PersonSet := Std.ExtTreeSet Person

/-- The set of some persons. -/
def PersonSet.ofList (people : List Person) : PersonSet := Std.ExtTreeSet.ofList people

end Cellwise

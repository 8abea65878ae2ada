import Cellwise.Catalog.FieldType
import Cellwise.Entity.Repository

/-!
# Employees

An employee is saved in the table `employee` under its id: the person in a text, the friends in a
list, and the people in a set.
-/

namespace Cellwise

/-- An employee. -/
structure Employee where
  id : String
  person : Option Person := none
  friends : List Person := []
  people : PersonSet := ∅
  deriving DecidableEq

namespace Employee

/-- The table of employees. -/
def layout : TableLayout :=
  let key := TableLayout.ofKey "employee" "id"
  ((key.addColumn "person" .text).addColumn "friends" .list).addColumn "people" .set

/-- How employees are saved. -/
def entity : Entity FieldType Employee where
  layout
  key employee := employee.id
  writes employee :=
    [.key "id" employee.id,
      .scalar "person" FieldType.person employee.person,
      .list "friends" FieldType.person employee.friends,
      .set "people" FieldType.person employee.people.toList]
  reads := do
    let id ← ReadPlan.getKey "id"
    let person ← ReadPlan.getScalar "person" FieldType.person
    let friends ← ReadPlan.getList "friends" FieldType.person
    let people ← ReadPlan.getSet "people" FieldType.person
    pure { id, person, friends, people := PersonSet.ofList people }

/-- An employee as JSON; the people are in their order. -/
def toJson (employee : Employee) : Json :=
  .object
    [("id", .string employee.id),
      ("person", .ofOption Person.toJson employee.person),
      ("friends", .array (employee.friends.map Person.toJson)),
      ("people", .array (employee.people.toList.map Person.toJson))]

end Employee

end Cellwise

import Cellwise.Catalog.Employee
import Cellwise.Catalog.Converters
import Cellwise.Proofs.Catalog.JsonFields
import Cellwise.Proofs.Entity.Reading
import Cellwise.Proofs.Entity.Writing
import Cellwise.Proofs.Store.Soundness

/-!
# Employees as rows

Where persons are registered with the JSON converter, every employee is written as a row of its
own (`Employee.row`) and read back from it. Writing one row over another is the same as going from
one employee to another field by field (`Employee.mergedWith`).
-/

namespace Cellwise

open Json Json.Reader

namespace Person

/-- The stored text of a person. -/
def text (person : Person) : String := person.toJson.render

/-- The person of a stored text. -/
def ofText? (stored : String) : Option Person :=
  match (parse stored : Except Fault Person) with
  | .ok person => some person
  | .error _ => none

theorem ofText?_text (person : Person) : ofText? person.text = some person := by
  have parsed : (parse person.text : Except Fault Person) = .ok person := by
    have read := person.faithful_toJson.parse_render
    rwa [within_of_le (by simp [depth_toJson, maxDepth])] at read
  rw [ofText?, parsed]

variable {registry : Registry FieldType}
  (registered : registry.find? FieldType.person = some (.json FieldType.person))
include registered

theorem write_eq_text (person : Person) :
    registry.write FieldType.person person = .ok person.text :=
  Registry.write_json registered person.faithful_toJson

theorem effect_read_text (person : Person) :
    (registry.read FieldType.person person.text).effect () = (.ok (ofText? person.text), ()) := by
  have read := Registry.run_read_json registered person.faithful_toJson
  rw [within_of_le (by simp [depth_toJson, maxDepth])] at read
  rw [ofText?_text, Action.effect]
  exact Prod.ext (congrArg Outcome.result read) rfl

end Person

namespace Employee

/-! ## The row of an employee -/

/-- The cell of an employee in a column. -/
def cell? (employee : Employee) (column : String) : Option Cell :=
  if column = "id" then some (.text employee.id)
  else if column = "person" then employee.person.map fun person => .text person.text
  else if column = "friends" then (Cell.list (employee.friends.map Person.text)).kept
  else if column = "people" then (Cell.set (.ofList (employee.people.toList.map Person.text))).kept
  else none

/-- The row of an employee. -/
def row (employee : Employee) : Row :=
  ["id", "person", "friends", "people"].foldl
    (fun row column => row.filled column (employee.cell? column)) ∅

theorem getElem?_row (employee : Employee) (column : String) :
    employee.row[column]? = employee.cell? column := by
  -- Each column is filled once, so that the order of filling does not matter.
  simp only [row, List.foldl_cons, List.foldl_nil, Row.getElem?_filled]
  by_cases people : "people" = column
  · subst people
    simp
  by_cases friends : "friends" = column
  · subst friends
    simp
  by_cases person : "person" = column
  · subst person
    simp
  by_cases id : "id" = column
  · subst id
    simp
  simp [people, friends, person, id, cell?, Ne.symm people, Ne.symm friends, Ne.symm person,
    Ne.symm id]

theorem cell?_eq_some {employee : Employee} {column : String} {cell : Cell}
    (held : employee.cell? column = some cell) :
    (column = "id" ∧ cell = .text employee.id) ∨
      (column = "person" ∧ ∃ person, cell = .text (Person.text person)) ∨
      (column = "friends" ∧ cell = .list (employee.friends.map Person.text) ∧ cell ≠ .list []) ∨
      (column = "people" ∧ cell = .set (.ofList (employee.people.toList.map Person.text)) ∧
        cell ≠ .set ∅) := by
  unfold cell? at held
  split at held
  next id => exact .inl ⟨id, (Option.some.inj held).symm⟩
  split at held
  next column =>
    rcases Option.map_eq_some_iff.1 held with ⟨person, -, rfl⟩
    exact .inr (.inl ⟨column, person, rfl⟩)
  split at held
  next column =>
    rcases Cell.kept_eq_some_iff.1 held with ⟨rfl, nonempty, -⟩
    exact .inr (.inr (.inl ⟨column, rfl, nonempty⟩))
  split at held
  next column =>
    rcases Cell.kept_eq_some_iff.1 held with ⟨rfl, -, nonempty⟩
    exact .inr (.inr (.inr ⟨column, rfl, nonempty⟩))
  next => cases held

/-- An employee has a column for its id, and one for every field that holds something. -/
theorem mem_row_iff (employee : Employee) (column : String) :
    column ∈ employee.row ↔
      column = "id" ∨ (column = "person" ∧ employee.person ≠ none) ∨
        (column = "friends" ∧ employee.friends ≠ []) ∨ (column = "people" ∧ employee.people ≠ ∅) := by
  rw [Std.ExtTreeMap.mem_iff_isSome_getElem?, getElem?_row, cell?]
  split
  next id => simp [id]
  split
  next person => simp [person, Option.isSome_iff_ne_none]
  split
  next friends =>
    by_cases none_there : employee.friends = [] <;> simp [friends, none_there, Cell.kept]
  split
  next people =>
    by_cases none_there : employee.people = ∅ <;> simp [people, none_there, Cell.kept]
  next id person friends people => simp [id, person, friends, people]

theorem solid_row (employee : Employee) : employee.row.Solid := by
  intro column cell held
  rw [getElem?_row] at held
  rcases cell?_eq_some held with
    ⟨-, rfl⟩ | ⟨-, person, rfl⟩ | ⟨-, rfl, nonempty⟩ | ⟨-, rfl, nonempty⟩
  · exact ⟨nofun, nofun⟩
  · exact ⟨nofun, nofun⟩
  · exact ⟨nonempty, nofun⟩
  · exact ⟨nofun, nonempty⟩

theorem admits_row (employee : Employee) : layout.Admits employee.id employee.row where
  keyed := getElem?_row employee "id"
  declared column cell held := by
    rw [getElem?_row] at held
    rw [TableLayout.declares_iff_find?]
    rcases cell?_eq_some held with
      ⟨rfl, rfl⟩ | ⟨rfl, person, rfl⟩ | ⟨rfl, rfl, -⟩ | ⟨rfl, rfl, -⟩ <;> rfl

/-! ## Going from one employee to another -/

/-- An employee written over an old one: what the new one has nothing for stays as it was. -/
def mergedWith (old employee : Employee) : Employee where
  id := employee.id
  person := employee.person.or old.person
  friends := if employee.friends = [] then old.friends else employee.friends
  people := if employee.people = ∅ then old.people else employee.people

/-- Nothing stays of an employee without fields. -/
theorem mergedWith_fresh (employee : Employee) :
    ({ id := employee.id } : Employee).mergedWith employee = employee := by
  cases employee with
  | mk id person friends people =>
    have same_friends : (if friends = [] then [] else friends) = friends := by
      split <;> simp_all
    have same_people : (if people = ∅ then ∅ else people) = people := by
      split <;> simp_all
    simp [mergedWith, same_friends, same_people]

theorem cell?_mergedWith (old employee : Employee) (column : String) :
    (old.mergedWith employee).cell? column =
      (employee.cell? column).elim (old.cell? column) Cell.kept := by
  -- Column by column: what is written is kept, what is not written comes from the old employee.
  simp only [cell?, mergedWith]
  split
  next => rfl
  split
  next => cases employee.person <;> rfl
  split
  next =>
    by_cases none_new : employee.friends = [] <;> simp [none_new, Cell.kept]
  split
  next =>
    by_cases none_new : employee.people = ∅ <;> simp [none_new, Cell.kept]
  next => rfl

/-- Writing rows over one another goes from one employee to the other. -/
theorem mergeAll_row (old employee : Employee) :
    old.row.mergeAll employee.row = (old.mergedWith employee).row := by
  refine Std.ExtTreeMap.ext_getElem? fun {column} => ?_
  rw [Row.getElem?_mergeAll, getElem?_row, getElem?_row, getElem?_row, cell?_mergedWith]

/-! ## Writing -/

section Registered

variable {registry : Registry FieldType} {settings : KeyspaceSettings}
  (registered : registry.find? FieldType.person = some (.json FieldType.person))
include registered

theorem encodeAll_persons (column : String) (people : List Person) :
    encodeAll registry column FieldType.person people = .ok (people.map Person.text) :=
  encodeAll_of_forall fun person _ => Person.write_eq_text registered person

/-- Every employee is written, as its row. -/
theorem effect_toRow (employee : Employee) :
    (Repository.toRow ⟨registry, settings⟩ entity employee).effect () = (.ok employee.row, ()) := by
  have id : (WriteCall.key "id" employee.id : WriteCall FieldType).cell? registry =
      .ok (employee.cell? "id") := rfl
  have person : (WriteCall.scalar "person" FieldType.person employee.person).cell? registry =
      .ok (employee.cell? "person") := by
    cases held : employee.person with
    | none => simp [WriteCall.cell?, cell?, held]
    | some person =>
      have written : encodeField registry "person" FieldType.person person = .ok person.text :=
        encodeField_of_write (Person.write_eq_text registered person)
      simp [WriteCall.cell?, cell?, held, written, Except.map]
  have friends : (WriteCall.list "friends" FieldType.person employee.friends).cell? registry =
      .ok (employee.cell? "friends") := by
    simp [WriteCall.cell?, cell?, encodeAll_persons registered, Except.map]
  have people : (WriteCall.set "people" FieldType.person employee.people.toList).cell? registry =
      .ok (employee.cell? "people") := by
    simp [WriteCall.cell?, cell?, encodeAll_persons registered, Except.map]
  refine Row.effect_ofCalls ?_
  simp only [entity]
  rw [WriteCall.effect_performAll_cons id, WriteCall.effect_performAll_cons person,
    WriteCall.effect_performAll_cons friends, WriteCall.effect_performAll_cons people]
  rfl

/-! ## Reading -/

theorem effect_readPerson (employee : Employee) :
    (employee.row.readScalar registry "person" FieldType.person).effect () =
      (.ok employee.person, ()) := by
  have held := getElem?_row employee "person"
  cases has : employee.person with
  | none => exact Row.effect_readScalar_of_none (by simpa [cell?, has] using held)
  | some person =>
    have read := Person.effect_read_text registered person
    rw [Person.ofText?_text] at read
    exact Row.effect_readScalar_of_some (by simpa [cell?, has] using held) read

theorem effect_readFriends (employee : Employee) :
    (employee.row.readList registry "friends" FieldType.person).effect () =
      (.ok employee.friends, ()) := by
  have held := getElem?_row employee "friends"
  by_cases none_there : employee.friends = []
  · rw [none_there]
    exact Row.effect_readList_of_none (by simpa [cell?, none_there, Cell.kept] using held)
  · have held : employee.row["friends"]? = some (.list (employee.friends.map Person.text)) := by
      simpa [cell?, none_there, Cell.kept] using held
    have read : ∀ stored ∈ employee.friends.map Person.text,
        (registry.read FieldType.person stored).effect () = (.ok (Person.ofText? stored), ()) := by
      intro stored mem
      rcases List.mem_map.1 mem with ⟨person, -, rfl⟩
      exact Person.effect_read_text registered person
    have back : (employee.friends.map Person.text).filterMap Person.ofText? = employee.friends := by
      have inverse : Person.ofText? ∘ Person.text = some := by
        funext person
        rw [Function.comp_apply, Person.ofText?_text]
      rw [List.filterMap_map, inverse, List.filterMap_some]
    have values := Row.effect_readList_of_some held read
    rwa [back] at values

/-- The people are found again as a set, in whatever order their texts are read. -/
theorem effect_readPeople (employee : Employee) :
    ∃ people, (employee.row.readSet registry "people" FieldType.person).effect () =
      (.ok people, ()) ∧ PersonSet.ofList people = employee.people := by
  have held := getElem?_row employee "people"
  by_cases none_there : employee.people = ∅
  · refine ⟨[], Row.effect_readSet_of_none ?_, ?_⟩
    · simpa [cell?, none_there, Cell.kept] using held
    · rw [none_there]
      rfl
  · have held : employee.row["people"]? =
        some (.set (.ofList (employee.people.toList.map Person.text))) := by
      simpa [cell?, none_there, Cell.kept] using held
    have mem_texts (stored : String) :
        stored ∈ (Std.ExtTreeSet.ofList (employee.people.toList.map Person.text) : TextSet) ↔
          ∃ person ∈ employee.people, person.text = stored := by
      simp [Std.ExtTreeSet.mem_ofList]
    have read : ∀ stored ∈
        (Std.ExtTreeSet.ofList (employee.people.toList.map Person.text) : TextSet),
        (registry.read FieldType.person stored).effect () = (.ok (Person.ofText? stored), ()) := by
      intro stored mem
      rcases (mem_texts stored).1 mem with ⟨person, -, rfl⟩
      exact Person.effect_read_text registered person
    have values := Row.effect_readSet_of_some held read
    refine ⟨_, values, ?_⟩
    refine Std.ExtTreeSet.ext_mem fun person => ?_
    have lawful : ∀ a b : Person, FieldFamily.same FieldType.person a b = true ↔ a = b :=
      fun a b => decide_eq_true_iff
    rw [PersonSet.ofList, Std.ExtTreeSet.mem_ofList, List.contains_iff_mem, mem_distinct lawful,
      List.mem_filterMap]
    -- Different texts cannot be read as one person, and no person is without a text.
    constructor
    · rintro ⟨stored, mem, back⟩
      rcases (mem_texts stored).1 (Std.ExtTreeSet.mem_toList.1 mem) with ⟨other, there, rfl⟩
      rw [Person.ofText?_text] at back
      cases back
      exact there
    · intro there
      have mem := (mem_texts person.text).2 ⟨person, there, rfl⟩
      exact ⟨person.text, Std.ExtTreeSet.mem_toList.2 mem, person.ofText?_text⟩

/-- Every employee is read back from its row. -/
theorem effect_fromRow (employee : Employee) :
    (Repository.fromRow ⟨registry, settings⟩ entity employee.row).effect () =
      (.ok employee, ()) := by
  have id : employee.row.readKey "id" = .ok employee.id := by
    rw [Row.readKey, getElem?_row]
    rfl
  rcases effect_readPeople registered employee with ⟨people, read, same⟩
  have plan : entity.reads = .key "id" fun id => .scalar "person" .person fun person =>
      .list "friends" .person fun friends => .set "people" .person fun people =>
        .done { id, person, friends, people := PersonSet.ofList people } := rfl
  rw [Repository.fromRow, plan, ReadPlan.effect_run_key _ id,
    ReadPlan.effect_run_scalar _ (effect_readPerson registered employee),
    ReadPlan.effect_run_list _ (effect_readFriends registered employee),
    ReadPlan.effect_run_set _ read, same]
  rfl

end Registered

end Employee

end Cellwise

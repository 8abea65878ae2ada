import Cellwise.Catalog.Converters
import Cellwise.Catalog.Employee
import Cellwise.Proofs.Entity.Repository
import Cellwise.Proofs.Store.Projection
import Cellwise.Proofs.Store.Refusal

/-!
# Loading some columns of an employee

Selecting some columns of a record answers as selecting all of them does, with the other columns
left out. The key column is no exception: an employee cannot be loaded without it, and is loaded
with the fields that are listed and nothing else if it is listed.
-/

namespace Cellwise

/-! ## Fields of a restricted row -/

namespace Row

variable (row : Row) (columns : List String) (column : String)

theorem readKey_project :
    (row.project columns).readKey column =
      if column ∈ columns then row.readKey column else .error (.missingColumn column) := by
  by_cases listed : column ∈ columns <;> simp [readKey, getElem?_project, listed]

variable {κ : Type} [FieldFamily κ] (registry : Registry κ) (k : κ)

theorem readScalar_project :
    (row.project columns).readScalar registry column k =
      if column ∈ columns then row.readScalar registry column k else pure none := by
  by_cases listed : column ∈ columns <;> simp [readScalar, getElem?_project, listed]

theorem readList_project :
    (row.project columns).readList registry column k =
      if column ∈ columns then row.readList registry column k else pure [] := by
  by_cases listed : column ∈ columns <;> simp [readList, getElem?_project, listed]

theorem readSet_project :
    (row.project columns).readSet registry column k =
      if column ∈ columns then row.readSet registry column k else pure [] := by
  by_cases listed : column ∈ columns <;> simp [readSet, getElem?_project, listed]

end Row

/-! ## Employees -/

namespace Employee

/-- What is left of an employee of whom only some columns are known. -/
def restrictedTo (columns : List String) (employee : Employee) : Employee where
  id := employee.id
  person := if "person" ∈ columns then employee.person else none
  friends := if "friends" ∈ columns then employee.friends else []
  people := if "people" ∈ columns then employee.people else ∅

variable {registry : Registry FieldType} {settings : KeyspaceSettings} {row : Row}
  {employee : Employee}

/-- An employee is loaded exactly if each of its fields is. -/
theorem effect_fromRow_eq_ok_iff :
    (Repository.fromRow ⟨registry, settings⟩ entity row).effect () = (.ok employee, ()) ↔
      row.readKey "id" = .ok employee.id ∧
      (row.readScalar registry "person" FieldType.person).effect () = (.ok employee.person, ()) ∧
      (row.readList registry "friends" FieldType.person).effect () = (.ok employee.friends, ()) ∧
      ∃ people, (row.readSet registry "people" FieldType.person).effect () = (.ok people, ()) ∧
        PersonSet.ofList people = employee.people := by
  have plan : entity.reads = .key "id" fun id => .scalar "person" .person fun person =>
      .list "friends" .person fun friends => .set "people" .person fun people =>
        .done { id, person, friends, people := PersonSet.ofList people } := rfl
  -- The fields are read one after another, and the first that fails would be the end of it.
  simp only [Repository.fromRow, plan, ReadPlan.run, Action.effect_bind_eq_ok_iff,
    Action.effect_ofExcept, Action.effect_pure, Prod.mk.injEq]
  constructor
  · rintro ⟨id, ⟨⟩, ⟨key, -⟩, person, ⟨⟩, scalar, friends, ⟨⟩, list, people, ⟨⟩, set, same, -⟩
    obtain rfl := Except.ok.inj same
    exact ⟨key, scalar, list, people, set, rfl⟩
  · rintro ⟨key, scalar, list, people, set, same⟩
    exact ⟨_, (), ⟨key, trivial⟩, _, (), scalar, _, (), list, people, (), set,
      congrArg Except.ok (by rw [same]), trivial⟩

/-- A restricted row that keeps the key is loaded field by field as the whole row is. -/
theorem effect_fromRow_project {columns : List String} (listed : "id" ∈ columns)
    (read : (Repository.fromRow ⟨registry, settings⟩ entity row).effect () = (.ok employee, ())) :
    (Repository.fromRow ⟨registry, settings⟩ entity (row.project columns)).effect () =
      (.ok (employee.restrictedTo columns), ()) := by
  obtain ⟨key, person, friends, people, set, same⟩ := effect_fromRow_eq_ok_iff.1 read
  refine effect_fromRow_eq_ok_iff.2 ⟨?key, ?person, ?friends, ?people⟩
  case key =>
    rw [Row.readKey_project, if_pos listed]
    exact key
  case person =>
    rw [Row.readScalar_project, restrictedTo]
    split
    next => exact person
    next => rfl
  case friends =>
    rw [Row.readList_project, restrictedTo]
    split
    next => exact friends
    next => rfl
  case people =>
    rw [Row.readSet_project, restrictedTo]
    split
    next => exact ⟨people, set, same⟩
    next => exact ⟨[], rfl, rfl⟩

/-- The key is read first, and misses before anything else can go wrong. -/
theorem effect_fromRow_project_of_unlisted {columns : List String} (unlisted : "id" ∉ columns) :
    (Repository.fromRow ⟨registry, settings⟩ entity (row.project columns)).effect () =
      (.error (.missingColumn "id"), ()) := by
  have key : (row.project columns).readKey "id" = .error (.missingColumn "id") := by
    rw [Row.readKey_project, if_neg unlisted]
  have plan : entity.reads.run registry (row.project columns) =
      Action.ofExcept ((row.project columns).readKey "id") >>= fun id =>
        (ReadPlan.scalar "person" .person fun person => .list "friends" .person fun friends =>
          .set "people" .person fun people =>
            .done ({ id, person, friends, people := PersonSet.ofList people } : Employee)).run
          registry (row.project columns) := rfl
  rw [Repository.fromRow, plan, key]
  exact Action.effect_bind_of_error (Action.effect_ofExcept _ _)

open Keyspace Repository

/-- Selecting some columns fails for the first name that is not declared, whether or not there is a
record, and otherwise answers with the record that selecting all columns answers with, restricted to
the names. For employees this means that loading some columns misses the key unless it is listed,
and then gives the employee that loading all columns gives, restricted to the names. -/
theorem projected_loads_agree {opening : KeyspaceSettings} {start : Keyspace}
    (opened : ((openEmpty opening).run ()).result = .ok start) (calls : List StoreCall) :
    let keyspace := (StoreCall.performAll calls start).2
    (∀ (name key : String) (table : Table) (columns : List String),
      keyspace.tables[name]? = some table →
        (∀ before column after, columns = before ++ column :: after →
          (∀ earlier ∈ before, earlier ∈ table.layout.columnNames) →
          column ∉ table.layout.columnNames →
            (select name key (some columns)).effect keyspace =
              (.error (.unknownColumn name column), keyspace)) ∧
        ((∀ column ∈ columns, column ∈ table.layout.columnNames) →
          ∃ full part, (select name key none).effect keyspace = (.ok full, keyspace) ∧
            (select name key (some columns)).effect keyspace = (.ok part, keyspace) ∧
            Option.Rel (fun (whole restricted : Row) => ∀ column : String, restricted[column]? =
              if column ∈ columns then whole[column]? else none) full part ∧
            ∀ others : List String, (∀ column, column ∈ others ↔ column ∈ columns) →
              (select name key (some others)).effect keyspace = (.ok part, keyspace))) ∧
    ∀ (registry : Registry FieldType) (settings : KeyspaceSettings) (key : String) (table : Table)
      (columns : List String),
      keyspace.tables["employee"]? = some table → table.layout = layout →
      (∀ column ∈ columns, column ∈ layout.columnNames) →
        (∀ row, (select "employee" key none).effect keyspace = (.ok (some row), keyspace) →
          "id" ∉ columns →
            (selectOneColumns ⟨registry, settings⟩ entity key columns).effect keyspace =
              (.error (.missingColumn "id"), keyspace)) ∧
        ∀ employee : Employee,
          (selectOne ⟨registry, settings⟩ entity key).effect keyspace =
            (.ok (some employee), keyspace) → "id" ∈ columns →
            (selectOneColumns ⟨registry, settings⟩ entity key columns).effect keyspace =
              (.ok (some (employee.restrictedTo columns)), keyspace) := by
  intro keyspace
  have sound : keyspace.Sound := sound_performAll opened calls
  refine ⟨?_, ?_⟩
  · intro name key table columns held
    refine ⟨?undeclared, ?declared⟩
    case undeclared =>
      -- The names are looked up before the record is, so that the key does not matter.
      rintro before column after rfl declared undeclared
      have refused := effect_select_of_undeclared held declared undeclared after key
      rwa [(sound name table held).filed] at refused
    case declared =>
      intro declared
      refine ⟨_, _, effect_select held key, effect_select_columns held declared key, ?_, ?_⟩
      · cases table.rows[key]? with
        | none => exact .none
        | some row => exact .some (row.getElem?_project columns)
      · intro others same
        -- A restricted row has a cell for each listed name, however often it is listed.
        have part : ∀ row : Row, row.project others = row.project columns := by
          intro row
          refine Std.ExtTreeMap.ext_getElem? fun {column} => ?_
          simp only [Row.getElem?_project, same]
        have others_declared : ∀ column ∈ others, column ∈ table.layout.columnNames :=
          fun column mem => declared column ((same column).1 mem)
        simpa only [part] using effect_select_columns held others_declared key
  · intro registry settings key table columns held same declared
    rw [← same] at declared
    have loads : (selectOneColumns ⟨registry, settings⟩ entity key columns).effect keyspace =
        (loaded ⟨registry, settings⟩ entity (table.rows[key]?.map (·.project columns)), keyspace) :=
      effect_selectOneColumns_eq held declared key
    refine ⟨?unlisted, ?listed⟩
    case unlisted =>
      intro row selected unlisted
      have stored : table.rows[key]? = some row := by
        rw [effect_select held key] at selected
        exact Except.ok.inj (Prod.mk.inj selected).1
      rw [loads, stored, Option.map_some, loaded, effect_fromRow_project_of_unlisted unlisted]
      rfl
    case listed =>
      intro employee found listed
      have whole : (selectOne ⟨registry, settings⟩ entity key).effect keyspace =
          (loaded ⟨registry, settings⟩ entity table.rows[key]?, keyspace) :=
        effect_selectOne_eq held key
      rw [whole] at found
      obtain ⟨row, stored, read⟩ := loaded_eq_some (Prod.mk.inj found).1
      rw [loads, stored, Option.map_some, loaded, effect_fromRow_project listed read]
      rfl

/-- An employee whose friends are asked for comes without the person; without the id it does not
come at all, and what is not declared is refused though there is no such employee. -/
theorem projected_loads_agree_friends :
    let registry : Registry FieldType :=
      { converters := [⟨.person, Person.fixedConverter⟩], options := {} }
    let repository : Repository FieldType := ⟨registry, {}⟩
    let row : Row := (((∅ : Row).insert "id" (.text "a")).insert "person" (.text "p")).insert
      "friends" (.list ["f"])
    let calls : List StoreCall := [.createTable layout, .upsert "employee" row]
    let keyspace := (StoreCall.performAll calls { name := "kcc", tables := ∅ }).2
    let friend : Person := { firstname := "x", lastname := "y" }
    ((openEmpty {}).run ()).result = .ok { name := "kcc", tables := ∅ } ∧
      (repository.selectOne entity "a").effect keyspace =
        (.ok (some { id := "a", person := some friend, friends := [friend] }), keyspace) ∧
      (repository.selectOneColumns entity "a" ["friends", "id", "id"]).effect keyspace =
        (.ok (some { id := "a", friends := [friend] }), keyspace) ∧
      (repository.selectOneColumns entity "a" ["friends"]).effect keyspace =
        (.error (.missingColumn "id"), keyspace) ∧
      (select "employee" "nobody" (some ["id", "ghost", "spirit"])).effect keyspace =
        (.error (.unknownColumn "employee" "ghost"), keyspace) := by
  intro registry repository row calls keyspace friend
  have opened : ((openEmpty {}).run ()).result = .ok { name := "kcc", tables := ∅ } := rfl
  have held : keyspace.tables["employee"]? = some { layout, rows := .ofList [("a", row)] } := by
    decide
  have found : (repository.selectOne entity "a").effect keyspace =
      (.ok (some { id := "a", person := some friend, friends := [friend] }), keyspace) := by rfl
  have stored : (select "employee" "a" none).effect keyspace = (.ok (some row), keyspace) :=
    by rfl
  obtain ⟨selects, loads⟩ := projected_loads_agree opened calls
  have whole := (loads registry {} "a" _ ["friends", "id", "id"] held rfl (by decide)).2 _ found
    (by decide)
  have unlisted := (loads registry {} "a" _ ["friends"] held rfl (by decide)).1 row stored
    (by decide)
  have refused := (selects "employee" "nobody" _ ["id", "ghost", "spirit"] held).1 ["id"] "ghost"
    ["spirit"] rfl (by decide) (by decide)
  exact ⟨opened, found, whole, unlisted, refused⟩

end Employee

end Cellwise

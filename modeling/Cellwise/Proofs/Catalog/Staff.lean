import Cellwise.Proofs.Catalog.EmployeeRow
import Cellwise.Proofs.Entity.Repository
import Cellwise.Proofs.Store.Naming

/-!
# The staff as a map

A repository of employees behaves like a map from ids to employees, whatever is done with it.

* `StaffCall` lists what can be done, and `Staff.after` and `Staff.answer` say what that means for
  the map.
* `Staff.Represents` relates a map to the keyspace that stores it. One call preserves it
  (`Represents.effect_perform`), and so does a run of calls (`Represents.effect_performAll`).
-/

namespace Cellwise

/-! ## Calls on a repository of employees -/

/-- A call on a repository of employees. -/
inductive StaffCall where
  | prepare
  | insert (employee : Employee)
  | update (employee : Employee)
  | selectOne (id : String)

/-- The answer to a call. -/
inductive StaffAnswer where
  | done
  | found (employee : Option Employee)

namespace StaffCall

/-- Performs a call. -/
def perform (repository : Repository FieldType) :
    StaffCall → Repository.RepositoryAction StaffAnswer
  | prepare => do
    repository.prepare Employee.entity
    pure .done
  | insert employee => do
    repository.insert Employee.entity employee
    pure .done
  | update employee => do
    repository.update Employee.entity employee
    pure .done
  | selectOne id => do
    let employee ← repository.selectOne Employee.entity id
    pure (.found employee)

/-- Performs calls one after another, up to the first that fails. -/
def performAll (repository : Repository FieldType) :
    List StaffCall → Repository.RepositoryAction (List StaffAnswer)
  | [] => pure []
  | call :: calls => do
    let answer ← call.perform repository
    let answers ← performAll repository calls
    pure (answer :: answers)

end StaffCall

/-! ## The map -/

/-- Employees under their ids. -/
abbrev Staff := Std.ExtTreeMap String Employee

namespace Staff

/-- What a call makes of the map; `truncates` tells whether preparing empties it. -/
def after (truncates : Bool) (staff : Staff) : StaffCall → Staff
  | .prepare => if truncates then ∅ else staff
  | .insert employee =>
    staff.insert employee.id ((staff.getD employee.id { id := employee.id }).mergedWith employee)
  | .update employee => staff.insert employee.id employee
  | .selectOne _ => staff

/-- What the map answers to a call. -/
def answer (staff : Staff) : StaffCall → StaffAnswer
  | .selectOne id => .found staff[id]?
  | _ => .done

/-- What calls make of the map one after another. -/
def afterAll (truncates : Bool) (staff : Staff) (calls : List StaffCall) : Staff :=
  calls.foldl (after truncates) staff

/-- What the map answers to calls one after another. -/
def answers (truncates : Bool) : Staff → List StaffCall → List StaffAnswer
  | _, [] => []
  | staff, call :: calls =>
    staff.answer call :: answers truncates (staff.after truncates call) calls

/-! ## The map in a keyspace -/

/-- The table of a map: the row of every employee under its id. -/
def table (staff : Staff) : Table where
  layout := Employee.layout
  rows := staff.map fun _ employee => employee.row

theorem getElem?_rows_table (staff : Staff) (id : String) :
    staff.table.rows[id]? = staff[id]?.map Employee.row := by
  simp [table]

theorem table_empty : table ∅ = { layout := Employee.layout, rows := ∅ } := by
  have none_stored : (table ∅).rows = ∅ := by
    refine Std.ExtTreeMap.ext_getElem? fun {id} => ?_
    simp [getElem?_rows_table]
  rw [← none_stored]
  rfl

/-- Preparing leaves the table of the map as it is, or the one of the empty map. -/
theorem preparedTable_eq (staff : Staff) (settings : KeyspaceSettings) :
    Repository.preparedTable settings Employee.layout (some staff.table) =
      (staff.after settings.truncateOnSetup .prepare).table := by
  simp only [Repository.preparedTable, after, Option.getD_some]
  split
  next => exact table_empty.symm
  next => rfl

theorem table_insert (staff : Staff) (id : String) (employee : Employee) :
    table (staff.insert id employee) =
      { staff.table with rows := staff.table.rows.insert id employee.row } := by
  have stored : (table (staff.insert id employee)).rows =
      staff.table.rows.insert id employee.row := by
    refine Std.ExtTreeMap.ext_getElem? fun {other} => ?_
    simp only [getElem?_rows_table, Std.ExtTreeMap.getElem?_insert]
    split <;> rfl
  rw [← stored]
  rfl

theorem table_update (staff : Staff) (employee : Employee) :
    table (staff.insert employee.id employee) =
      staff.table.replaced employee.id employee.row := by
  rw [table_insert, Table.replaced, employee.solid_row.image_eq]

theorem table_merge (staff : Staff) (employee : Employee) :
    table (staff.insert employee.id
        ((staff.getD employee.id { id := employee.id }).mergedWith employee)) =
      staff.table.merged employee.id employee.row := by
  have row : (staff.table.rows.getD employee.id ∅).mergeAll employee.row =
      ((staff.getD employee.id { id := employee.id }).mergedWith employee).row := by
    simp only [Std.ExtTreeMap.getD_eq_getD_getElem?, getElem?_rows_table]
    cases staff[employee.id]? with
    | none =>
      -- There is no row to write over, and no employee to take anything from.
      simp [employee.solid_row.mergeAll_empty, employee.mergedWith_fresh]
    | some old => exact Employee.mergeAll_row old employee
  rw [table_insert, Table.merged, row]

/-- A keyspace stores a map of employees in their table. -/
def Represents (staff : Staff) (keyspace : Keyspace) : Prop :=
  keyspace.tables[Employee.layout.name]? = some staff.table

theorem represents_withTable (staff : Staff) (keyspace : Keyspace) :
    staff.Represents (keyspace.withTable Employee.layout.name (some staff.table)) := by
  exact keyspace.getElem?_tables_withTable_self Employee.layout.name (some staff.table)

/-! ## One call, and a run of calls -/

namespace Represents

variable {registry : Registry FieldType} {settings : KeyspaceSettings} {staff : Staff}
  {keyspace : Keyspace}

section Registered

variable (registered : registry.find? FieldType.person = some (.json FieldType.person))
include registered

theorem effect_selectOne (represents : staff.Represents keyspace) (id : String) :
    (Repository.selectOne ⟨registry, settings⟩ Employee.entity id).effect keyspace =
      (.ok staff[id]?, keyspace) := by
  have row := staff.getElem?_rows_table id
  cases held : staff[id]? with
  | none =>
    rw [held] at row
    exact Repository.effect_selectOne_of_none represents row
  | some employee =>
    rw [held] at row
    exact Repository.effect_selectOne_of_some represents row
      (Employee.effect_fromRow registered employee)

theorem effect_insert (represents : staff.Represents keyspace) (employee : Employee) :
    ∃ later, (Repository.insert ⟨registry, settings⟩ Employee.entity employee).effect keyspace =
        (.ok (), later) ∧
      Represents (staff.insert employee.id
        ((staff.getD employee.id { id := employee.id }).mergedWith employee)) later := by
  refine ⟨keyspace.withTable Employee.layout.name (some _), ?_, represents_withTable _ keyspace⟩
  rw [table_merge]
  exact Repository.effect_insert (Employee.effect_toRow registered employee) represents
    employee.admits_row

/-- An employee that is new is stored as it is. -/
theorem effect_insert_of_none (represents : staff.Represents keyspace) {employee : Employee}
    (nobody : staff[employee.id]? = none) :
    ∃ later, (Repository.insert ⟨registry, settings⟩ Employee.entity employee).effect keyspace =
        (.ok (), later) ∧
      Represents (staff.insert employee.id employee) later := by
  have fresh : (staff.getD employee.id { id := employee.id }).mergedWith employee = employee := by
    rw [Std.ExtTreeMap.getD_eq_getD_getElem?, nobody]
    exact employee.mergedWith_fresh
  rcases represents.effect_insert registered employee with ⟨later, inserted, stored⟩
  rw [fresh] at stored
  exact ⟨later, inserted, stored⟩

theorem effect_update (represents : staff.Represents keyspace) (employee : Employee) :
    ∃ later, (Repository.update ⟨registry, settings⟩ Employee.entity employee).effect keyspace =
        (.ok (), later) ∧
      Represents (staff.insert employee.id employee) later := by
  refine ⟨keyspace.withTable Employee.layout.name (some _), ?_, represents_withTable _ keyspace⟩
  rw [table_update]
  exact Repository.effect_update (Employee.effect_toRow registered employee) represents
    employee.admits_row

/-- A call succeeds, answers what the map answers, and leaves a keyspace that stores the map as the
call makes it. -/
theorem effect_perform (represents : staff.Represents keyspace)
    (creates : settings.createTables = true) (call : StaffCall) :
    ∃ later, (call.perform ⟨registry, settings⟩).effect keyspace =
        (.ok (staff.answer call), later) ∧
      (staff.after settings.truncateOnSetup call).Represents later := by
  cases call with
  | prepare =>
    have held : keyspace.tables[Employee.layout.name]? = some staff.table := represents
    have prepared : (Repository.prepare ⟨registry, settings⟩ Employee.entity).effect keyspace =
        (.ok (), keyspace.withTable Employee.layout.name
          (some (staff.after settings.truncateOnSetup .prepare).table)) := by
      rw [← preparedTable_eq, ← held]
      exact Repository.effect_prepare creates keyspace
    exact ⟨_, Action.effect_bind_of_ok prepared, represents_withTable _ keyspace⟩
  | insert employee =>
    rcases represents.effect_insert registered employee with ⟨later, inserted, stored⟩
    exact ⟨later, Action.effect_bind_of_ok inserted, stored⟩
  | update employee =>
    rcases represents.effect_update registered employee with ⟨later, updated, stored⟩
    exact ⟨later, Action.effect_bind_of_ok updated, stored⟩
  | selectOne id =>
    exact ⟨keyspace, Action.effect_bind_of_ok (represents.effect_selectOne registered id),
      represents⟩

theorem effect_performAll (represents : staff.Represents keyspace)
    (creates : settings.createTables = true) (calls : List StaffCall) :
    ∃ later, (StaffCall.performAll ⟨registry, settings⟩ calls).effect keyspace =
        (.ok (staff.answers settings.truncateOnSetup calls), later) ∧
      (staff.afterAll settings.truncateOnSetup calls).Represents later := by
  induction calls generalizing staff keyspace with
  | nil => exact ⟨keyspace, rfl, represents⟩
  | cons call calls ih =>
    -- The first call leaves a keyspace that stores the next map, from which the others start.
    rcases represents.effect_perform registered creates call with ⟨next, first, stored⟩
    rcases ih stored with ⟨later, rest, left⟩
    refine ⟨later, ?_, left⟩
    rw [StaffCall.performAll, Action.effect_bind_of_ok first, Action.effect_bind_of_ok rest]
    rfl

end Registered

theorem effect_count (represents : staff.Represents keyspace) :
    (Keyspace.count "employee").effect keyspace = (.ok staff.size, keyspace) := by
  have counted := Keyspace.effect_count represents
  have size : staff.table.rows.size = staff.size := Std.ExtTreeMap.size_map
  rwa [size] at counted

end Represents

/-! ## From an empty keyspace on -/

/-- The registry of the staff model can always be put together, and keeps persons as JSON text. -/
theorem effect_staffRegistry (options : RegistryOptions) :
    ∃ registry, (staffRegistry options).effect () = (.ok registry, ()) ∧
      registry.find? FieldType.person = some (.json FieldType.person) :=
  ⟨{ converters := [⟨.person, Person.converter⟩], options }, rfl, rfl⟩

/-- Preparing where there is no table yet begins with the empty map. -/
theorem effect_prepare {registry : Registry FieldType} {settings : KeyspaceSettings}
    {keyspace : Keyspace} (creates : settings.createTables = true)
    (absent : keyspace.tables[Employee.layout.name]? = none) :
    ∃ later, (Repository.prepare ⟨registry, settings⟩ Employee.entity).effect keyspace =
      (.ok (), later) ∧ Represents ∅ later := by
  have fresh : Repository.preparedTable settings Employee.layout none = table ∅ := by
    rw [table_empty, Repository.preparedTable]
    split <;> rfl
  refine ⟨keyspace.withTable Employee.layout.name (some (table ∅)), ?_,
    represents_withTable ∅ keyspace⟩
  rw [← fresh, ← absent]
  exact Repository.effect_prepare creates keyspace

theorem effect_perform_prepare {registry : Registry FieldType} {settings : KeyspaceSettings}
    {keyspace : Keyspace} (creates : settings.createTables = true)
    (absent : keyspace.tables[Employee.layout.name]? = none) :
    ∃ later, (StaffCall.prepare.perform ⟨registry, settings⟩).effect keyspace =
      (.ok .done, later) ∧ Represents ∅ later := by
  rcases effect_prepare creates absent with ⟨later, prepared, empty⟩
  exact ⟨later, Action.effect_bind_of_ok prepared, empty⟩

/-- A repository of employees over a new keyspace, once prepared, behaves like a map from ids to
employees: no call fails, every answer is that of the map, and afterwards every employee is found
as in the map and the table has as many rows as the map has ids. -/
theorem repository_refines_map (opening settings : KeyspaceSettings) (options : RegistryOptions)
    (valid : opening.validate = .ok ()) (creates : settings.createTables = true) :
    ∃ keyspace registry,
      ((Keyspace.openEmpty opening).run ()).result = .ok keyspace ∧
        ((staffRegistry options).run ()).result = .ok registry ∧
        ∀ calls : List StaffCall,
          let repository : Repository FieldType := ⟨registry, settings⟩
          let outcome := (StaffCall.performAll repository (.prepare :: calls)).run keyspace
          let staff := afterAll settings.truncateOnSetup ∅ calls
          outcome.result = .ok (.done :: answers settings.truncateOnSetup ∅ calls) ∧
            (∀ id, ((repository.selectOne Employee.entity id).run outcome.state).result =
              .ok staff[id]?) ∧
            ((Keyspace.count "employee").run outcome.state).result = .ok staff.size := by
  rcases effect_staffRegistry options with ⟨registry, built, registered⟩
  have opened := Keyspace.effect_openEmpty valid
  refine ⟨{ name := opening.name, tables := ∅ }, registry, congrArg Prod.fst opened,
    congrArg Prod.fst built, ?_⟩
  intro calls repository outcome staff
  have absent : ({ name := opening.name, tables := ∅ } : Keyspace).tables[Employee.layout.name]? =
      none := by simp
  rcases effect_perform_prepare creates absent with ⟨ready, prepared, empty⟩
  rcases empty.effect_performAll registered creates calls with ⟨later, performed, represents⟩
  have run : (StaffCall.performAll repository (.prepare :: calls)).effect
      { name := opening.name, tables := ∅ } =
        (.ok (.done :: answers settings.truncateOnSetup ∅ calls), later) := by
    rw [StaffCall.performAll, Action.effect_bind_of_ok prepared,
      Action.effect_bind_of_ok performed]
    rfl
  have result : outcome.result = .ok (.done :: answers settings.truncateOnSetup ∅ calls) :=
    congrArg Prod.fst run
  have state : outcome.state = later := congrArg Prod.snd run
  rw [state]
  refine ⟨result, fun id => ?_, ?_⟩
  · exact congrArg Prod.fst (represents.effect_selectOne registered id)
  · exact congrArg Prod.fst represents.effect_count

/-- Two inserts for one id: the second adds a friend and leaves the person. -/
theorem repository_refines_map_two_inserts :
    let first : Employee := { id := "a", person := some ⟨"Ada", "L"⟩ }
    let second : Employee := { id := "a", friends := [⟨"Bob", "\"\n"⟩] }
    KeyspaceSettings.validate {} = .ok () ∧ ({} : KeyspaceSettings).createTables = true ∧
      ∃ keyspace registry,
        ((Keyspace.openEmpty {}).run ()).result = .ok keyspace ∧
          let repository : Repository FieldType := ⟨registry, {}⟩
          let outcome :=
            (StaffCall.performAll repository [.prepare, .insert first, .insert second]).run keyspace
          ((repository.selectOne Employee.entity "a").run outcome.state).result =
            .ok (some { id := "a", person := first.person, friends := second.friends }) := by
  intro first second
  have valid : KeyspaceSettings.validate {} = .ok () := rfl
  have creates : ({} : KeyspaceSettings).createTables = true := rfl
  rcases repository_refines_map {} {} {} valid creates with ⟨keyspace, registry, opened, -, run⟩
  refine ⟨valid, creates, keyspace, registry, opened, ?_⟩
  intro repository outcome
  have found := (run [.insert first, .insert second]).2.1 "a"
  have merged : (afterAll true ∅ [.insert first, .insert second])["a"]? =
      some { id := "a", person := first.person, friends := second.friends } := by
    simp [afterAll, after, Employee.mergedWith, first, second]
  rw [← merged]
  exact found

end Staff

end Cellwise

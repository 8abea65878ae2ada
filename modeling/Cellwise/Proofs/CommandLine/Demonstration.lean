import Cellwise.Proofs.Catalog.Staff
import Cellwise.Proofs.CommandLine.Silence
import Cellwise.Proofs.Store.Projection

/-!
# The demonstration

The demonstration saves an employee, changes it and loads it again, in a new keyspace. Nothing of
this depends on the id of the employee, and only two settings decide how it ends: the name of the
keyspace has to be accepted, and missing tables have to be created.

* `Commands.effect_walkThrough` follows the walk step by step through the map of employees.
* `Commands.demo_succeeds_iff` says when the demonstration succeeds, how it fails otherwise, and
  what it has found when it succeeds.
-/

namespace Cellwise

open Cellwise.Action

namespace Commands

/-! ## What is found -/

/-- What the demonstration finds out about the employee of an id. -/
structure Shows (id : String) (found : Walkthrough) : Prop where
  afterInsert : found.afterInsert = (∅ : Row).insert "id" (.text id)
  columns : ∀ column : String,
    column ∈ found.afterUpdate ↔ column ∈ ["id", "person", "friends", "people"]
  key : found.afterUpdate["id"]? = some (.text id)
  person : found.afterUpdate["person"]? = some (.text (Person.text ⟨"Homer", "Simpson"⟩))
  friends : found.afterUpdate["friends"]? =
    some (.list [Person.text ⟨"Carl", "Carlson"⟩, Person.text ⟨"Lenny", "Leonard"⟩])
  people : found.afterUpdate["people"]? =
    some (.set (.ofList [Person.text ⟨"Apu", "Nahasapeemapetilon"⟩]))
  loaded : found.loaded = staffedEmployee id

/-- The rows of the two employees, and the second employee. -/
def findings (id : String) : Walkthrough :=
  ⟨(blankEmployee id).row, (staffedEmployee id).row, staffedEmployee id⟩

theorem row_blankEmployee (id : String) :
    (blankEmployee id).row = (∅ : Row).insert "id" (.text id) := by
  refine Std.ExtTreeMap.ext_getElem? fun {column} => ?_
  rw [Std.ExtTreeMap.getElem?_insert]
  by_cases key : column = "id"
  · subst key
    rw [Employee.getElem?_row]
    rfl
  · have absent : column ∉ (blankEmployee id).row := by
      rw [Employee.mem_row_iff]
      simp [blankEmployee, key]
    simp [Std.ExtTreeMap.getElem?_eq_none absent, Ne.symm key]

theorem people_staffedEmployee (id : String) :
    (staffedEmployee id).people.toList = [⟨"Apu", "Nahasapeemapetilon"⟩] := rfl

theorem shows_findings (id : String) : Shows id (findings id) where
  afterInsert := row_blankEmployee id
  columns column := by
    have some_people : (staffedEmployee id).people ≠ ∅ := by
      intro none_there
      have listed := people_staffedEmployee id
      rw [none_there] at listed
      cases listed
    have held := (staffedEmployee id).mem_row_iff column
    simp only [some_people, ne_eq, not_false_eq_true, and_true] at held
    simpa [findings, staffedEmployee] using held
  key := Employee.getElem?_row _ _
  person := Employee.getElem?_row _ _
  friends := Employee.getElem?_row _ _
  people := by
    rw [findings, Employee.getElem?_row, Employee.cell?, people_staffedEmployee]
    rfl
  loaded := rfl

/-! ## The walk -/

/-- The stored row of an employee comes with all of its columns. -/
theorem effect_employeeRow {staff : Staff} {keyspace : Keyspace}
    (represents : staff.Represents keyspace) (id : String) :
    (employeeRow id).effect keyspace =
      (.ok ((staff[id]?.map Employee.row).getD ∅), keyspace) := by
  have whole : (staff.table.rows[id]?.map fun row => row.project Employee.layout.columnNames) =
      staff[id]?.map Employee.row := by
    rw [Staff.getElem?_rows_table, Option.map_map]
    exact Option.map_congr fun employee _ => employee.admits_row.project_columnNames
  have selected : (Keyspace.select Employee.layout.name id
      (some Employee.layout.columnNames)).effect keyspace =
        (.ok (staff[id]?.map Employee.row), keyspace) := by
    rw [← whole]
    exact Keyspace.effect_select_columns represents (fun _ listed => listed) id
  have found := effect_mapError_of_ok (Repository.effect_onKeyspace_of_ok selected)
    CommandError.mapping
  exact effect_bind_of_ok found

section Registered

variable {registry : Registry FieldType} {settings : KeyspaceSettings} {keyspace : Keyspace}
  (registered : registry.find? FieldType.person = some (.json FieldType.person))
  (absent : keyspace.tables[Employee.layout.name]? = none)
include registered absent

/-- In a keyspace without the table of employees, the walk goes through three maps: the one that
holds nobody, the one with the employee that nothing is known of, and the one with its successor. -/
theorem effect_walkThrough (creates : settings.createTables = true) (id : String) :
    ∃ later, (walkThrough ⟨registry, settings⟩ id).effect keyspace = (.ok (findings id), later) := by
  let repository : Repository FieldType := ⟨registry, settings⟩
  let blank := blankEmployee id
  let employee := staffedEmployee id
  obtain ⟨ready, prepared, empty⟩ : ∃ ready,
      (repository.prepare Employee.entity).effect keyspace = (.ok (), ready) ∧
        Staff.Represents ∅ ready := Staff.effect_prepare creates absent
  obtain ⟨middle, inserted, one⟩ : ∃ middle,
      (repository.insert Employee.entity blank).effect ready = (.ok (), middle) ∧
        Staff.Represents ((∅ : Staff).insert id blank) middle :=
    empty.effect_insert_of_none registered Std.ExtTreeMap.getElem?_empty
  obtain ⟨last, updated, changed⟩ : ∃ last,
      (repository.update Employee.entity employee).effect middle = (.ok (), last) ∧
        Staff.Represents (((∅ : Staff).insert id blank).insert id employee) last :=
    one.effect_update registered employee
  -- What is loaded at the end is what the last map holds under the id.
  have before : (employeeRow id).effect middle = (.ok blank.row, middle) := by
    simpa using effect_employeeRow one id
  have after : (employeeRow id).effect last = (.ok employee.row, last) := by
    simpa using effect_employeeRow changed id
  have loaded : (repository.selectOne Employee.entity id).effect last =
      (.ok (some employee), last) := by
    rw [changed.effect_selectOne registered]
    simp
  refine ⟨last, ?_⟩
  rw [walkThrough, effect_bind_of_ok (effect_mapError_of_ok prepared _),
    effect_bind_of_ok (effect_mapError_of_ok inserted _), effect_bind_of_ok before]
  dsimp only
  rw [effect_bind_of_ok (effect_mapError_of_ok updated _), effect_bind_of_ok after,
    effect_bind_of_ok (effect_mapError_of_ok loaded _)]
  exact congrArg (effect · last) (if_pos rfl)

/-- Where the table of employees is not created, the walk ends before anything is stored: when the
table is to be emptied, and otherwise when the first employee is saved. -/
theorem effect_walkThrough_of_none (creates : settings.createTables = false) (id : String) :
    (walkThrough ⟨registry, settings⟩ id).effect keyspace =
      (.error (.mapping (.store (.tableNotFound "employee"))), keyspace) := by
  let repository : Repository FieldType := ⟨registry, settings⟩
  have prepared : (repository.prepare Employee.entity).effect keyspace =
      if settings.truncateOnSetup then (.error (.store (.tableNotFound "employee")), keyspace)
      else (.ok (), keyspace) := Repository.effect_prepare_of_none absent creates
  cases truncates : settings.truncateOnSetup with
  -- The table is missed while preparing, or by the first employee.
  | true =>
    rw [if_pos truncates] at prepared
    exact effect_bind_of_error (effect_mapError_of_error prepared _)
  | false =>
    rw [truncates, if_neg Bool.false_ne_true] at prepared
    have refused : (repository.insert Employee.entity (blankEmployee id)).effect keyspace =
        (.error (.store (.tableNotFound "employee")), keyspace) :=
      Repository.effect_insert_of_none absent (Employee.effect_toRow registered _)
    rw [walkThrough, effect_bind_of_ok (effect_mapError_of_ok prepared _)]
    exact effect_bind_of_error (effect_mapError_of_error refused _)

end Registered

theorem silent_employeeRow (id : String) : (employeeRow id).Silent :=
  .bind ((Repository.silent_selectRow ..).mapError _) fun _ => silent_pure _

/-- The walk leaves it to the command to print what was found. -/
theorem silent_walkThrough (repository : Repository FieldType) (id : String) :
    (walkThrough repository id).Silent := by
  refine .bind ((repository.silent_prepare _).mapError _) fun _ => ?_
  refine .bind ((repository.silent_insert _ _).mapError _) fun _ => ?_
  refine .bind (silent_employeeRow id) fun _ => ?_
  refine .bind ((repository.silent_update _ _).mapError _) fun _ => ?_
  refine .bind (silent_employeeRow id) fun _ => ?_
  refine .bind ((repository.silent_selectOne _ _).mapError _) fun loaded => ?_
  cases loaded with
  | none => exact silent_fail _
  | some loaded =>
    dsimp only
    split
    next => exact silent_pure _
    next => exact silent_fail _

/-! ## The command -/

/-- The text that shows what the demonstration found. -/
def reportText (console : Console) (keyspace : Keyspace) (registry : Registry FieldType)
    (found : Walkthrough) : String :=
  match console.format with
  | .json => (reportJson keyspace registry found).canonical.renderIndented ++ "\n"
  | .text =>
    String.join ((reportLines console keyspace registry found).map fun line => line ++ "\n")

theorem prints_report (console : Console) (keyspace : Keyspace) (registry : Registry FieldType)
    (found : Walkthrough) :
    Prints
      (match console.format with
        | .json => Console.printLine (reportJson keyspace registry found).canonical.renderIndented
        | .text => (reportLines console keyspace registry found).forM Console.printLine)
      (reportText console keyspace registry found) := by
  unfold reportText
  cases console.format with
  | json => exact .printLine _
  | text => exact .forM_printLine _

section Demo

variable (settings : AppSettings) (id : String) (console : Console)

/-- A keyspace whose name is not accepted is not opened. -/
theorem effect_demo_of_invalid {fault : StoreError}
    (invalid : settings.keyspace.validate = .error fault) :
    (demo settings id console).effect () = (.error (.store fault), ()) := by
  rcases Staff.effect_staffRegistry settings.conversion with ⟨registry, built, -⟩
  have refused := Keyspace.effect_openEmpty_of_error invalid
  rw [demo, effect_bind_of_ok (effect_mapError_of_ok built _)]
  exact effect_bind_of_error (effect_mapError_of_error refused _)

variable {settings}

section Opened

variable (valid : settings.keyspace.validate = .ok ())
include valid

theorem effect_demo_of_none (creates : settings.keyspace.createTables = false) :
    (demo settings id console).effect () =
      (.error (.mapping (.store (.tableNotFound "employee"))), ()) := by
  rcases Staff.effect_staffRegistry settings.conversion with ⟨registry, built, registered⟩
  have opened := Keyspace.effect_openEmpty valid
  have absent : ({ name := settings.keyspace.name, tables := ∅ } :
      Keyspace).tables[Employee.layout.name]? = none := by simp
  have stuck := effect_walkThrough_of_none registered absent creates id
  rw [demo, effect_bind_of_ok (effect_mapError_of_ok built _),
    effect_bind_of_ok (effect_mapError_of_ok opened _)]
  exact effect_bind_of_error (effect_inside_of_error stuck ())

/-- The demonstration prints a report on what its walk has found, and nothing else. -/
theorem prints_demo (creates : settings.keyspace.createTables = true) :
    ∃ registry closed,
      (staffRegistry settings.conversion).effect () = (.ok registry, ()) ∧
        registry.find? FieldType.person = some (.json FieldType.person) ∧
        (walkThrough ⟨registry, settings.keyspace⟩ id).effect
          { name := settings.keyspace.name, tables := ∅ } = (.ok (findings id), closed) ∧
        Prints (demo settings id console) (reportText console closed registry (findings id)) := by
  rcases Staff.effect_staffRegistry settings.conversion with ⟨registry, built, registered⟩
  have opened := Keyspace.effect_openEmpty valid
  have absent : ({ name := settings.keyspace.name, tables := ∅ } :
      Keyspace).tables[Employee.layout.name]? = none := by simp
  rcases effect_walkThrough registered absent creates id with ⟨closed, walked⟩
  refine ⟨registry, closed, built, registered, walked, ?_⟩
  -- All that comes in front of the report succeeds without a word.
  refine .behind (effect_mapError_of_ok built _) ((silent_staffRegistry _).mapError _) ?_
  refine .behind (effect_mapError_of_ok opened _) ((Keyspace.silent_openEmpty _).mapError _) ?_
  refine .behind (effect_inside_of_ok walked ()) ((silent_walkThrough _ id).inside _) ?_
  exact prints_report console closed registry (findings id)

end Opened

/-- The demonstration succeeds if and only if the name of the keyspace is accepted and missing
tables are created. If tables are not created, the table of employees is missing; that the employee
has vanished, or has come back as another one, is never found. A demonstration that succeeds shows
the row of an employee with an id and nothing else, then the row of the employee that took its
place, with all four columns, which is loaded as this employee. -/
theorem demo_succeeds_iff (settings : AppSettings) (id : String) (console : Console) :
    let outcome := (demo settings id console).run ()
    (outcome.result = .ok () ↔
        settings.keyspace.validate = .ok () ∧ settings.keyspace.createTables = true) ∧
      (∀ fault, settings.keyspace.validate = .error fault →
        outcome.result = .error (.store fault)) ∧
      (settings.keyspace.validate = .ok () → settings.keyspace.createTables = false →
        outcome.result = .error (.mapping (.store (.tableNotFound "employee")))) ∧
      (∀ other, outcome.result ≠ .error (.vanished other)) ∧ outcome.result ≠ .error .differs ∧
      (outcome.result = .ok () →
        ∃ registry opened closed found,
          (staffRegistry settings.conversion).effect () = (.ok registry, ()) ∧
            (Keyspace.openEmpty settings.keyspace).effect () = (.ok opened, ()) ∧
            (walkThrough ⟨registry, settings.keyspace⟩ id).effect opened = (.ok found, closed) ∧
            (demo settings id console).output () = reportText console closed registry found ∧
            Shows id found ∧
            (Repository.fromRow ⟨registry, settings.keyspace⟩ Employee.entity
              found.afterUpdate).effect () = (.ok (staffedEmployee id), ())) := by
  intro outcome
  -- The name of the keyspace is looked at before any table is missed.
  cases valid : settings.keyspace.validate with
  | error fault =>
    have result : outcome.result = .error (.store fault) :=
      congrArg Prod.fst (effect_demo_of_invalid settings id console valid)
    simp [result]
  | ok done =>
    cases creates : settings.keyspace.createTables with
    | false =>
      have result : outcome.result = .error (.mapping (.store (.tableNotFound "employee"))) :=
        congrArg Prod.fst (effect_demo_of_none id console valid creates)
      simp [result]
    | true =>
      rcases prints_demo id console valid creates with
        ⟨registry, closed, built, registered, walked, prints⟩
      have result : outcome.result = .ok () := congrArg Prod.fst prints.succeeds
      refine ⟨by simp [result], nofun, by simp, by simp [result], by simp [result], fun _ => ?_⟩
      exact ⟨registry, _, closed, findings id, built, Keyspace.effect_openEmpty valid, walked,
        prints.output_eq, shows_findings id,
        Employee.effect_fromRow registered (staffedEmployee id)⟩

/-- An id that looks like JSON is an id like any other; without the table nothing comes of it. -/
theorem demo_succeeds_iff_json_like_id :
    let id := "\x7b\"id\":[1]\x7d"
    let usual : AppSettings := {}
    let tableless : AppSettings := { keyspace := { createTables := false } }
    usual.keyspace.validate = .ok () ∧ usual.keyspace.createTables = true ∧
      ((demo usual id ⟨.json, false⟩).run ()).result = .ok () ∧
      tableless.keyspace.validate = .ok () ∧ tableless.keyspace.createTables = false ∧
      ((demo tableless id ⟨.text, true⟩).run ()).result =
        .error (.mapping (.store (.tableNotFound "employee"))) := by
  intro id usual tableless
  have valid : usual.keyspace.validate = .ok () := (rfl : KeyspaceSettings.validate {} = .ok ())
  refine ⟨valid, rfl, ?_, valid, rfl, ?_⟩
  · exact (demo_succeeds_iff usual id ⟨.json, false⟩).1.2 ⟨valid, rfl⟩
  · exact (demo_succeeds_iff tableless id ⟨.text, true⟩).2.2.1 valid rfl

end Demo

end Commands

end Cellwise

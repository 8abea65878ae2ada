import Cellwise.Store.Call

/-!
# A call is about one table

Every call on a keyspace names one table. What it answers and what it makes of the keyspace is
decided by that table alone, and no other table changes. `StoreCall.onTable` says what a call does
to the table of its name, where `none` stands for a table that is not there; `StoreCall.run_perform`
says that performing the call does just that.
-/

namespace Cellwise

/-- Changing the answer of an action changes nothing else of its outcome. -/
theorem Action.run_bind_pure {σ ε α β : Type} (action : Action σ ε α) (f : α → β) (state : σ) :
    (action >>= fun a => pure (f a)).run state =
      ⟨(action.run state).result.map f, (action.run state).state, (action.run state).events⟩ := by
  rw [Action.run_bind]
  cases h : (action.run state).result <;> simp [Except.map]

namespace Keyspace

variable (keyspace : Keyspace)

/-- The keyspace with another table, or none, under a name. -/
def withTable (name : String) : Option Table → Keyspace
  | some table => { keyspace with tables := keyspace.tables.insert name table }
  | none => { keyspace with tables := keyspace.tables.erase name }

theorem getElem?_tables_withTable (name other : String) (slot : Option Table) :
    (keyspace.withTable name slot).tables[other]? =
      if name = other then slot else keyspace.tables[other]? := by
  cases slot with
  | none => simp [withTable, Std.ExtTreeMap.getElem?_erase]
  | some table => simp [withTable, Std.ExtTreeMap.getElem?_insert]

@[simp] theorem name_withTable (name : String) (slot : Option Table) :
    (keyspace.withTable name slot).name = keyspace.name := by
  cases slot <;> rfl

/-- Keyspaces are equal when they have the same name and the same tables. -/
theorem ext_tables {a b : Keyspace} (name : a.name = b.name)
    (tables : ∀ table : String, a.tables[table]? = b.tables[table]?) : a = b := by
  rcases a with ⟨aName, aTables⟩
  rcases b with ⟨bName, bTables⟩
  have same : aTables = bTables := Std.ExtTreeMap.ext_getElem? fun {table} => tables table
  subst same
  simpa using name

/-- Putting back what is there already changes nothing. -/
theorem withTable_self (name : String) :
    keyspace.withTable name keyspace.tables[name]? = keyspace := by
  refine ext_tables (by simp) fun table => ?_
  rw [getElem?_tables_withTable]
  split
  next same => rw [same]
  next => rfl

end Keyspace

namespace Table

variable (table : Table)

/-- The table with a row written over the stored row of its key. -/
def merged (key : String) (row : Row) : Table :=
  { table with rows := table.rows.insert key ((table.rows.getD key ∅).mergeAll row) }

/-- The table with a row in the place of the stored row of its key. -/
def replaced (key : String) (row : Row) : Table :=
  { table with rows := table.rows.insert key row.image }

end Table

namespace StoreCall

/-- The name of the table that a call is about. -/
def table : StoreCall → String
  | createTable layout => layout.name
  | dropTable table => table
  | truncate table => table
  | upsert table _ => table
  | replace table _ => table
  | select table _ _ => table
  | count table => table

/-- What a call answers and leaves when the table of its name is there. -/
def onPresent (present : Table) : StoreCall → Except StoreError StoreAnswer × Option Table
  | createTable _ => (.ok (.created false), some present)
  | dropTable _ => (.ok (.dropped true), none)
  | truncate _ => (.ok .done, some { present with rows := ∅ })
  | upsert _ row =>
    match present.checkRow row with
    | .error e => (.error e, some present)
    | .ok key => (.ok .done, some (present.merged key row))
  | replace _ row =>
    match present.checkRow row with
    | .error e => (.error e, some present)
    | .ok key => (.ok .done, some (present.replaced key row))
  | select _ key none => (.ok (.row present.rows[key]?), some present)
  | select _ key (some columns) =>
    match present.checkColumns columns with
    | .error e => (.error e, some present)
    | .ok () => (.ok (.row (present.rows[key]?.map fun row => row.project columns)), some present)
  | count _ => (.ok (.count present.rows.size), some present)

/-- What a call answers and leaves when there is no table of its name. -/
def onAbsent : StoreCall → Except StoreError StoreAnswer × Option Table
  | createTable layout => (.ok (.created true), some { layout, rows := ∅ })
  | dropTable _ => (.ok (.dropped false), none)
  | call => (.error (.tableNotFound call.table), none)

/-- What a call answers and leaves, by the table of its name. -/
def onTable (call : StoreCall) : Option Table → Except StoreError StoreAnswer × Option Table
  | some present => call.onPresent present
  | none => call.onAbsent

end StoreCall

namespace Keyspace

variable (keyspace : Keyspace)

theorem run_findTable (name : String) :
    (findTable name).run keyspace =
      ⟨match keyspace.tables[name]? with
        | some table => .ok table
        | none => .error (.tableNotFound name), keyspace, []⟩ := by
  rw [findTable, Action.run_bind]
  cases h : keyspace.tables[name]? <;> simp [h]

/-- An action that begins by looking for a table fails if there is none, and goes on with it
otherwise. -/
theorem run_findTable_bind {α : Type} (name : String) (next : Table → StoreAction α) :
    (findTable name >>= next).run keyspace =
      match keyspace.tables[name]? with
      | some table => (next table).run keyspace
      | none => ⟨.error (.tableNotFound name), keyspace, []⟩ := by
  rw [Action.run_bind, run_findTable]
  cases keyspace.tables[name]? <;> simp

/-! ## The operations, run -/

theorem withTable_of_getElem? {name : String} {slot : Option Table}
    (held : keyspace.tables[name]? = slot) : keyspace.withTable name slot = keyspace := by
  rw [← held, withTable_self]

theorem run_createTable (layout : TableLayout) :
    ((createTable layout).run keyspace).result = .ok (keyspace.tables[layout.name]?).isNone ∧
      ((createTable layout).run keyspace).state =
        match keyspace.tables[layout.name]? with
        | some _ => keyspace
        | none => keyspace.withTable layout.name (some { layout, rows := ∅ }) := by
  rw [createTable, Action.run_bind]
  cases held : keyspace.tables[layout.name]? with
  | some table =>
    simp [Std.ExtTreeMap.contains_eq_isSome_getElem?, held]
  | none =>
    simp [Std.ExtTreeMap.contains_eq_isSome_getElem?, held, Action.run_bind, Action.log, putTable,
      withTable]

theorem run_dropTable (name : String) :
    ((dropTable name).run keyspace).result = .ok (keyspace.tables[name]?).isSome ∧
      ((dropTable name).run keyspace).state = keyspace.withTable name none := by
  simp [dropTable, Action.run_bind, withTable]

theorem run_truncate_of_some {name : String} {table : Table}
    (held : keyspace.tables[name]? = some table) :
    ((truncate name).run keyspace).result = .ok () ∧
      ((truncate name).run keyspace).state =
        keyspace.withTable name (some { table with rows := ∅ }) := by
  rw [truncate, run_findTable_bind, held]
  simp [Action.run_bind, Action.log, putTable, withTable]

theorem run_upsert_of_some {name : String} {table : Table} (row : Row)
    (held : keyspace.tables[name]? = some table) :
    (upsert name row).run keyspace =
      match table.checkRow row with
      | .error e => ⟨.error e, keyspace, []⟩
      | .ok key => ⟨.ok (), keyspace.withTable name (some (table.merged key row)), []⟩ := by
  rw [upsert, run_findTable_bind, held]
  cases checked : table.checkRow row <;>
    simp [checked, Action.run_bind, putTable, withTable, Table.merged]

theorem run_replace_of_some {name : String} {table : Table} (row : Row)
    (held : keyspace.tables[name]? = some table) :
    (replace name row).run keyspace =
      match table.checkRow row with
      | .error e => ⟨.error e, keyspace, []⟩
      | .ok key => ⟨.ok (), keyspace.withTable name (some (table.replaced key row)), []⟩ := by
  rw [replace, run_findTable_bind, held]
  cases checked : table.checkRow row <;>
    simp [checked, Action.run_bind, putTable, withTable, Table.replaced]

theorem run_select_of_some {name : String} {table : Table} (key : String)
    (columns : Option (List String)) (held : keyspace.tables[name]? = some table) :
    (select name key columns).run keyspace =
      match columns with
      | none => ⟨.ok table.rows[key]?, keyspace, []⟩
      | some columns =>
        ⟨(table.checkColumns columns).map fun _ =>
          table.rows[key]?.map fun row => row.project columns, keyspace, []⟩ := by
  rw [select, run_findTable_bind, held]
  cases columns with
  | none => rfl
  | some columns =>
    cases checked : table.checkColumns columns <;> simp [checked, Action.run_bind, Except.map]

theorem run_count_of_some {name : String} {table : Table}
    (held : keyspace.tables[name]? = some table) :
    (count name).run keyspace = ⟨.ok table.rows.size, keyspace, []⟩ := by
  rw [count, run_findTable_bind, held]
  rfl

section Absent

variable {keyspace} {name : String} (absent : keyspace.tables[name]? = none)

include absent

theorem run_truncate_of_none :
    (truncate name).run keyspace = ⟨.error (.tableNotFound name), keyspace, []⟩ := by
  rw [truncate, run_findTable_bind, absent]

theorem run_upsert_of_none (row : Row) :
    (upsert name row).run keyspace = ⟨.error (.tableNotFound name), keyspace, []⟩ := by
  rw [upsert, run_findTable_bind, absent]

theorem run_replace_of_none (row : Row) :
    (replace name row).run keyspace = ⟨.error (.tableNotFound name), keyspace, []⟩ := by
  rw [replace, run_findTable_bind, absent]

theorem run_select_of_none (key : String) (columns : Option (List String)) :
    (select name key columns).run keyspace = ⟨.error (.tableNotFound name), keyspace, []⟩ := by
  rw [select, run_findTable_bind, absent]

theorem run_count_of_none :
    (count name).run keyspace = ⟨.error (.tableNotFound name), keyspace, []⟩ := by
  rw [count, run_findTable_bind, absent]

end Absent

end Keyspace

namespace StoreCall

open Keyspace

variable (call : StoreCall) (keyspace : Keyspace)

/-- Performing a call answers and leaves what the table of its name decides. -/
theorem perform_onTable :
    (call.perform.run keyspace).result = (call.onTable keyspace.tables[call.table]?).1 ∧
      (call.perform.run keyspace).state =
        keyspace.withTable call.table (call.onTable keyspace.tables[call.table]?).2 := by
  -- A call that changes nothing puts back the table that it found.
  have same := keyspace.withTable_self call.table
  cases call with
  | createTable layout =>
    rcases keyspace.run_createTable layout with ⟨result, state⟩
    rw [perform, Action.run_bind_pure, result, state]
    cases held : keyspace.tables[layout.name]? <;>
      simp_all [table, onTable, onPresent, onAbsent, Except.map]
  | dropTable name =>
    rcases keyspace.run_dropTable name with ⟨result, state⟩
    rw [perform, Action.run_bind_pure, result, state]
    cases held : keyspace.tables[name]? <;>
      simp [table, onTable, onPresent, onAbsent, held, Except.map]
  | truncate name =>
    rw [perform, Action.run_bind_pure]
    cases held : keyspace.tables[name]? with
    | some present =>
      rcases keyspace.run_truncate_of_some held with ⟨result, state⟩
      simp [result, state, table, onTable, onPresent, held, Except.map]
    | none =>
      rw [run_truncate_of_none held]
      simp_all [table, onTable, onAbsent, Except.map]
  | upsert name row =>
    rw [perform, Action.run_bind_pure]
    cases held : keyspace.tables[name]? with
    | some present =>
      rw [keyspace.run_upsert_of_some row held]
      cases checked : present.checkRow row <;> simp_all [table, onTable, onPresent, Except.map]
    | none =>
      rw [run_upsert_of_none held]
      simp_all [table, onTable, onAbsent, Except.map]
  | replace name row =>
    rw [perform, Action.run_bind_pure]
    cases held : keyspace.tables[name]? with
    | some present =>
      rw [keyspace.run_replace_of_some row held]
      cases checked : present.checkRow row <;> simp_all [table, onTable, onPresent, Except.map]
    | none =>
      rw [run_replace_of_none held]
      simp_all [table, onTable, onAbsent, Except.map]
  | select name key columns =>
    rw [perform, Action.run_bind_pure]
    cases held : keyspace.tables[name]? with
    | some present =>
      rw [keyspace.run_select_of_some key columns held]
      cases columns with
      | none => simp_all [table, onTable, onPresent, Except.map]
      | some columns =>
        cases checked : present.checkColumns columns <;>
          simp_all [table, onTable, onPresent, Except.map]
    | none =>
      rw [run_select_of_none held]
      simp_all [table, onTable, onAbsent, Except.map]
  | count name =>
    rw [perform, Action.run_bind_pure]
    cases held : keyspace.tables[name]? with
    | some present =>
      rw [keyspace.run_count_of_some held]
      simp_all [table, onTable, onPresent, Except.map]
    | none =>
      rw [run_count_of_none held]
      simp_all [table, onTable, onAbsent, Except.map]

/-- The tables that a call leaves: only the one of its name may be another. -/
theorem getElem?_tables_perform (table : String) :
    (call.perform.run keyspace).state.tables[table]? =
      if call.table = table then (call.onTable keyspace.tables[table]?).2
      else keyspace.tables[table]? := by
  rw [(call.perform_onTable keyspace).2, getElem?_tables_withTable]
  split
  next same => rw [same]
  next => rfl

end StoreCall

end Cellwise

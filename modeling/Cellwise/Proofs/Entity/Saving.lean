import Cellwise.Catalog.Badge
import Cellwise.Proofs.Entity.Atomicity
import Cellwise.Proofs.Entity.Writing
import Cellwise.Proofs.Store.Soundness

/-!
# What saving an entity does

Inserting writes the row of an entity over the record of its key, and updating puts it in the place
of that record. Since no call puts an empty collection into a row (`WriteCall.solid_performAll`),
nothing that was stored is lost by inserting, and nothing of the row is lost by updating.

* `Keyspace.storing` is what both ways to store a row have in common; they differ in what becomes of
  the table.
* `Keyspace.Files` says that one record changes and nothing else, which leaves no choice of what
  the keyspace becomes (`Keyspace.Files.unique`).
* `Repository.effect_insert_eq_ok_iff` and `Repository.effect_update_eq_ok_iff` say when an entity is
  saved, and `Repository.saving_files_row` which record changes then.
-/

namespace Cellwise

variable {κ : Type} [FieldFamily κ]

/-! ## Rows that calls write -/

theorem Row.Solid.filled {row : Row} (solid : row.Solid) (column : String) {cell : Option Cell}
    (nonempty : ∀ c, cell = some c → c ≠ .list [] ∧ c ≠ .set ∅) :
    (row.filled column cell).Solid := by
  intro other held mem
  rw [getElem?_filled] at mem
  split at mem
  next =>
    cases cell with
    | none => exact solid other held (by simpa using mem)
    | some c =>
      obtain rfl : c = held := by simpa using mem
      exact nonempty c rfl
  next => exact solid other held mem

namespace WriteCall

theorem solid_perform (registry : Registry κ) (call : WriteCall κ) {row : Row} (solid : row.Solid) :
    ((call.perform registry).effect row).2.Solid := by
  rw [effect_perform]
  cases writes : call.cell? registry with
  | error e => exact solid
  | ok cell =>
    refine solid.filled call.column ?_
    rintro c rfl
    exact (brings_of_cell? writes).nonempty

/-- Calls write no empty collection, whatever they write over one another. -/
theorem solid_performAll (registry : Registry κ) (calls : List (WriteCall κ)) {row : Row}
    (solid : row.Solid) :
    ((performAll registry calls).effect row).2.Solid := by
  -- A call that fails leaves the row as it is, so the step holds of it as well.
  induction calls generalizing row with
  | nil => exact solid
  | cons call calls ih =>
    have next := call.solid_perform registry solid
    rcases run : (call.perform registry).effect row with ⟨result, middle⟩
    rw [run] at next
    cases result with
    | error e =>
      rw [performAll, Action.effect_bind_of_error run]
      exact next
    | ok done =>
      rw [performAll, Action.effect_bind_of_ok run]
      exact ih next

end WriteCall

/-! ## Records of a keyspace -/

namespace Keyspace

/-- The record that is filed under a key of a table. -/
def record? (keyspace : Keyspace) (name key : String) : Option Row :=
  keyspace.tables[name]?.bind fun table => table.rows[key]?

/-- The key that a row carries for a table. -/
def keyOf? (keyspace : Keyspace) (name : String) (row : Row) : Option String :=
  keyspace.tables[name]?.bind fun table => row.text? table.layout.keyColumn

/-- The table of a name is there and admits a row under a key. -/
def Admits (keyspace : Keyspace) (name key : String) (row : Row) : Prop :=
  ∃ table, keyspace.tables[name]? = some table ∧ table.layout.Admits key row

/-- One keyspace becomes another by filing a record under a key of a table, and by nothing else. -/
structure Files (before : Keyspace) (name key : String) (record : Row) (after : Keyspace) :
    Prop where
  record_eq : after.record? name key = some record
  records_eq : ∀ other : String, other ≠ key →
    after.record? name other = before.record? name other
  layout_eq : after.tables[name]?.map Table.layout = before.tables[name]?.map Table.layout
  tables_eq : ∀ other : String, other ≠ name → after.tables[other]? = before.tables[other]?
  name_eq : after.name = before.name

variable {keyspace later : Keyspace} {name key : String} {table : Table} {row : Row}

theorem files_withTable (held : keyspace.tables[name]? = some table) (key : String)
    (record : Row) :
    keyspace.Files name key record (keyspace.withTable name
      (some { table with rows := table.rows.insert key record })) where
  record_eq := by simp [record?, getElem?_tables_withTable]
  records_eq other apart := by
    have apart : key ≠ other := fun same => apart same.symm
    simp [record?, getElem?_tables_withTable, held, Std.ExtTreeMap.getElem?_insert, apart]
  layout_eq := by simp [getElem?_tables_withTable, held]
  tables_eq other apart := by
    have apart : name ≠ other := fun same => apart same.symm
    rw [getElem?_tables_withTable, if_neg apart]
  name_eq := name_withTable ..

theorem record?_of_held (held : keyspace.tables[name]? = some table) (key : String) :
    keyspace.record? name key = table.rows[key]? := by
  rw [record?, held]
  rfl

/-- Filing a record leaves no choice of what the keyspace becomes. -/
theorem Files.unique {before other : Keyspace} {record : Row}
    (held : before.tables[name]? = some table)
    (files : before.Files name key record later) (files' : before.Files name key record other) :
    later = other := by
  refine ext_tables (files.name_eq.trans files'.name_eq.symm) fun label => ?_
  by_cases own : label = name
  · subst own
    have layout := files.layout_eq
    have layout' := files'.layout_eq
    rw [held, Option.map_some, Option.map_eq_some_iff] at layout layout'
    obtain ⟨⟨_, rows⟩, there, rfl⟩ := layout
    obtain ⟨⟨_, rows'⟩, there', rfl⟩ := layout'
    have same : rows = rows' := by
      refine Std.ExtTreeMap.ext_getElem? fun {at_key} => ?_
      calc rows[at_key]?
          = later.record? label at_key := (record?_of_held there at_key).symm
        _ = other.record? label at_key := by
            by_cases filed : at_key = key
            · rw [filed, files.record_eq, files'.record_eq]
            · rw [files.records_eq at_key filed, files'.records_eq at_key filed]
        _ = rows'[at_key]? := record?_of_held there' at_key
    rw [there, there', same]
  · exact (files.tables_eq label own).trans (files'.tables_eq label own).symm

theorem keyOf?_eq_some (held : keyspace.tables[name]? = some table)
    (admits : table.layout.Admits key row) : keyspace.keyOf? name row = some key := by
  have text := (row.text?_eq_some_iff table.layout.keyColumn key).2 admits.keyed
  simpa [keyOf?, held] using text

theorem Admits.keyOf?_eq (admits : keyspace.Admits name key row) :
    keyspace.keyOf? name row = some key := by
  obtain ⟨table, held, admits⟩ := admits
  exact keyOf?_eq_some held admits

/-- Merging a row into a record keeps the cells of the row, and behind them those of the record. -/
theorem getElem?_mergeAll_record? (held : keyspace.tables[name]? = some table) (key : String)
    (solid : row.Solid) (column : String) :
    ((table.rows.getD key ∅).mergeAll row)[column]? =
      row[column]?.or ((keyspace.record? name key).bind (·[column]?)) := by
  have found : (table.rows.getD key ∅)[column]? =
      (keyspace.record? name key).bind (·[column]?) := by
    rw [record?_of_held held, Std.ExtTreeMap.getD_eq_getD_getElem?]
    cases table.rows[key]? <;> simp
  rw [Row.getElem?_mergeAll, found]
  -- A cell of the row is kept because it is not an empty collection.
  cases brought : row[column]? with
  | none => rfl
  | some cell => exact Cell.kept_eq_some_iff.2 ⟨rfl, solid column cell brought⟩

/-- What storing a row comes to, given what becomes of a table that admits the row. -/
def storing (change : Table → String → Row → Table) (name : String) (row : Row)
    (keyspace : Keyspace) : Except StoreError Unit × Keyspace :=
  match keyspace.tables[name]? with
  | none => (.error (.tableNotFound name), keyspace)
  | some table =>
    match table.checkRow row with
    | .error e => (.error e, keyspace)
    | .ok key => (.ok (), keyspace.withTable name (some (change table key row)))

theorem effect_upsert_eq_storing (name : String) (row : Row) (keyspace : Keyspace) :
    (upsert name row).effect keyspace = storing Table.merged name row keyspace := by
  rw [Action.effect, storing]
  cases held : keyspace.tables[name]? with
  | none => rw [run_upsert_of_none held]
  | some table =>
    rw [run_upsert_of_some keyspace row held]
    cases checked : table.checkRow row <;> simp only [checked]

theorem effect_replace_eq_storing (name : String) (row : Row) (keyspace : Keyspace) :
    (replace name row).effect keyspace = storing Table.replaced name row keyspace := by
  rw [Action.effect, storing]
  cases held : keyspace.tables[name]? with
  | none => rw [run_replace_of_none held]
  | some table =>
    rw [run_replace_of_some keyspace row held]
    cases checked : table.checkRow row <;> simp only [checked]

variable {change : Table → String → Row → Table}

/-- A row is stored exactly if the table is there and admits the row. -/
theorem storing_eq_ok_iff :
    storing change name row keyspace = (.ok (), later) ↔
      ∃ table key, keyspace.tables[name]? = some table ∧ table.layout.Admits key row ∧
        later = keyspace.withTable name (some (change table key row)) := by
  rw [storing]
  constructor
  · intro ok
    cases held : keyspace.tables[name]? with
    | none => simp [held] at ok
    | some table =>
      cases checked : table.checkRow row with
      | error e => simp [held, checked] at ok
      | ok key =>
        have left : keyspace.withTable name (some (change table key row)) = later := by
          simpa [held, checked] using ok
        exact ⟨table, key, rfl, (table.checkRow_eq_ok_iff row key).1 checked, left.symm⟩
  · rintro ⟨table, key, held, admits, rfl⟩
    have checked := (table.checkRow_eq_ok_iff row key).2 admits
    simp only [held, checked]

/-- Storing a row again changes nothing if changing the table again does not. -/
theorem storing_again
    (layout : ∀ table key row, (change table key row).layout = table.layout)
    (again : ∀ table key row, change (change table key row) key row = change table key row)
    (stored : storing change name row keyspace = (.ok (), later)) :
    storing change name row later = (.ok (), later) := by
  obtain ⟨table, key, held, admits, rfl⟩ := storing_eq_ok_iff.1 stored
  have admits' : (change table key row).layout.Admits key row := by
    rwa [layout]
  refine storing_eq_ok_iff.2 ⟨_, key, getElem?_tables_withTable_self .., admits', ?_⟩
  rw [withTable_withTable, again]

/-- Without a record to write over, it makes no difference how a row is stored. -/
theorem storing_merged_eq_storing_replaced (solid : row.Solid)
    (absent : ∀ key, keyspace.keyOf? name row = some key → keyspace.record? name key = none) :
    storing Table.merged name row keyspace = storing Table.replaced name row keyspace := by
  rw [storing, storing]
  cases held : keyspace.tables[name]? with
  | none => rfl
  | some table =>
    cases checked : table.checkRow row with
    | error e => simp only [checked]
    | ok key =>
      -- Over a record without columns, the row is written as it is, since it is solid.
      have carried := keyOf?_eq_some held ((table.checkRow_eq_ok_iff row key).1 checked)
      have fresh : table.rows[key]? = none := by simpa [record?, held] using absent key carried
      have same : table.merged key row = table.replaced key row := by
        rw [Table.merged, Table.replaced, Std.ExtTreeMap.getD_eq_getD_getElem?, fresh,
          Option.getD_none, solid.mergeAll_empty, solid.image_eq]
      simp only [checked, same]

end Keyspace

/-! ## Storing a row again -/

theorem Row.mergeAll_mergeAll_self (stored row : Row) :
    (stored.mergeAll row).mergeAll row = stored.mergeAll row := by
  refine Std.ExtTreeMap.ext_getElem? fun {column} => ?_
  rw [getElem?_mergeAll, getElem?_mergeAll]
  cases row[column]? <;> rfl

namespace Table

theorem rows_insert_insert (rows : Std.ExtTreeMap String Row) (key : String) (first last : Row) :
    (rows.insert key first).insert key last = rows.insert key last := by
  refine Std.ExtTreeMap.ext_getElem? fun {other} => ?_
  simp only [Std.ExtTreeMap.getElem?_insert]
  split <;> rfl

variable (table : Table) (key : String) (row : Row)

theorem merged_merged_self : (table.merged key row).merged key row = table.merged key row := by
  simp only [merged, rows_insert_insert, Std.ExtTreeMap.getD_insert_self,
    Row.mergeAll_mergeAll_self]

theorem replaced_replaced_self :
    (table.replaced key row).replaced key row = table.replaced key row := by
  simp only [replaced, rows_insert_insert]

end Table

/-- An action that fails without a trace and can be repeated where it succeeds can be repeated. -/
theorem Action.Atomic.effect_effect {σ ε α : Type} {action : Action σ ε α} (atomic : action.Atomic)
    (again : ∀ (state later : σ) (a : α),
      action.effect state = (.ok a, later) → action.effect later = (.ok a, later))
    (state : σ) : action.effect (action.effect state).2 = action.effect state := by
  rcases run : action.effect state with ⟨result, later⟩
  cases result with
  | error e =>
    obtain rfl := atomic state later e run
    exact run
  | ok a => exact again state later a run

/-! ## Saving an entity -/

namespace Repository

open Keyspace

variable {α : Type} {repository : Repository κ} {entity : Entity κ α} {value : α} {row : Row}
  {keyspace later : Keyspace} {name key : String} {table : Table}

/-- The row of an entity cannot be written if a call cannot be performed. -/
theorem effect_toRow_of_error {error : MappingError} {last : Row}
    (failed : (WriteCall.performAll repository.registry (entity.writes value)).effect ∅ =
      (.error error, last)) :
    (repository.toRow entity value).effect () = (.error error, ()) :=
  Action.effect_bind_of_error (Action.effect_inside_of_error failed ())

theorem effect_toRow_eq_ok_iff :
    (repository.toRow entity value).effect () = (.ok row, ()) ↔
      (WriteCall.performAll repository.registry (entity.writes value)).effect ∅ =
        (.ok (), row) := by
  constructor
  · intro ok
    rcases run : (WriteCall.performAll repository.registry (entity.writes value)).effect ∅ with
      ⟨result, last⟩
    cases result with
    | error e =>
      rw [effect_toRow_of_error run] at ok
      simp at ok
    | ok done =>
      have written : (repository.toRow entity value).effect () = (.ok last, ()) :=
        Row.effect_ofCalls run
      obtain rfl : last = row := by simpa [written] using ok
      rfl
  · exact Row.effect_ofCalls

/-- The row of an entity has no empty collections. -/
theorem solid_of_effect_toRow
    (written : (repository.toRow entity value).effect () = (.ok row, ())) : row.Solid := by
  have solid := WriteCall.solid_performAll repository.registry (entity.writes value) Row.solid_empty
  rwa [effect_toRow_eq_ok_iff.1 written] at solid

section Stored

variable (message : String) (store : String → Row → StoreAction Unit)

/-- An entity is saved by storing its row, and not at all if the row cannot be written. -/
theorem effect_saveWith (repository : Repository κ) (entity : Entity κ α) (value : α)
    (keyspace : Keyspace) :
    (saveWith message store entity value
        (WriteCall.performAll repository.registry (entity.writes value))).effect keyspace =
      match (repository.toRow entity value).effect () with
      | (.error e, _) => (.error e, keyspace)
      | (.ok row, _) => (onKeyspace (store entity.layout.name row)).effect keyspace := by
  rcases run : (repository.toRow entity value).effect () with ⟨result, last⟩
  have answered : (Action.ofReport (repository.toRow entity value)).effect keyspace =
      (result, keyspace) := by
    rw [Action.effect_ofReport, run]
  cases result with
  | error e => exact Action.effect_bind_of_error answered
  | ok row =>
    refine (Action.effect_bind_of_ok answered).trans ?_
    exact Action.effect_bind_of_ok (effect_logSaving message entity value row keyspace)

/-- An entity is saved exactly if its row is written and stored. -/
theorem effect_saveWith_eq_ok_iff :
    (saveWith message store entity value
        (WriteCall.performAll repository.registry (entity.writes value))).effect keyspace =
        (.ok (), later) ↔
      ∃ row, (repository.toRow entity value).effect () = (.ok row, ()) ∧
        (store entity.layout.name row).effect keyspace = (.ok (), later) := by
  rw [effect_saveWith]
  constructor
  · intro ok
    rcases run : (repository.toRow entity value).effect () with ⟨result, last⟩
    cases result with
    | error e => simp [run] at ok
    | ok row =>
      rcases stored : (store entity.layout.name row).effect keyspace with ⟨result, last⟩
      refine ⟨row, rfl, ?_⟩
      cases result <;> simp_all [onKeyspace]
  · rintro ⟨row, written, stored⟩
    rw [written]
    exact effect_onKeyspace_of_ok stored

end Stored

/-- Saving an entity again changes nothing if storing its row again does not. -/
theorem effect_saveWith_again {message : String} {store : String → Row → StoreAction Unit}
    (again : ∀ (name : String) (row : Row) (before after : Keyspace),
      (store name row).effect before = (.ok (), after) →
        (store name row).effect after = (.ok (), after))
    (saved : (saveWith message store entity value
        (WriteCall.performAll repository.registry (entity.writes value))).effect keyspace =
      (.ok (), later)) :
    (saveWith message store entity value
        (WriteCall.performAll repository.registry (entity.writes value))).effect later =
      (.ok (), later) := by
  obtain ⟨row, written, stored⟩ := (effect_saveWith_eq_ok_iff ..).1 saved
  have storedAgain := again entity.layout.name row keyspace later stored
  exact (effect_saveWith_eq_ok_iff ..).2 ⟨row, written, storedAgain⟩

/-- Inserting an entity again changes nothing. -/
theorem effect_insert_insert (value : α) (keyspace : Keyspace) :
    (repository.insert entity value).effect
        ((repository.insert entity value).effect keyspace).2 =
      (repository.insert entity value).effect keyspace := by
  refine (repository.atomic_insert entity value).effect_effect ?_ keyspace
  intro before after done ok
  refine effect_saveWith_again ?_ ok
  intro name row before after stored
  rw [effect_upsert_eq_storing] at stored ⊢
  exact storing_again (fun _ _ _ => rfl) Table.merged_merged_self stored

/-- Updating an entity again changes nothing. -/
theorem effect_update_update (value : α) (keyspace : Keyspace) :
    (repository.update entity value).effect
        ((repository.update entity value).effect keyspace).2 =
      (repository.update entity value).effect keyspace := by
  refine (repository.atomic_update entity value).effect_effect ?_ keyspace
  intro before after done ok
  refine effect_saveWith_again ?_ ok
  intro name row before after stored
  rw [effect_replace_eq_storing] at stored ⊢
  exact storing_again (fun _ _ _ => rfl) Table.replaced_replaced_self stored

/-- Inserting succeeds exactly if the row of the entity is written and the table admits it, and then
files the row over the record of its key. -/
theorem effect_insert_eq_ok_iff :
    (repository.insert entity value).effect keyspace = (.ok (), later) ↔
      ∃ row key record, (repository.toRow entity value).effect () = (.ok row, ()) ∧
        keyspace.Admits entity.layout.name key row ∧
        keyspace.Files entity.layout.name key record later ∧
        ∀ column : String, record[column]? =
          row[column]?.or ((keyspace.record? entity.layout.name key).bind (·[column]?)) := by
  rw [insert_eq_saveWith, effect_saveWith_eq_ok_iff]
  simp only [effect_upsert_eq_storing, storing_eq_ok_iff]
  constructor
  · rintro ⟨row, written, table, key, held, admits, rfl⟩
    exact ⟨row, key, _, written, ⟨table, held, admits⟩, files_withTable held key _,
      getElem?_mergeAll_record? held key (solid_of_effect_toRow written)⟩
  · rintro ⟨row, key, record, written, ⟨table, held, admits⟩, files, cells⟩
    have merged : record = (table.rows.getD key ∅).mergeAll row := by
      refine Std.ExtTreeMap.ext_getElem? fun {column} => ?_
      rw [cells, getElem?_mergeAll_record? held key (solid_of_effect_toRow written)]
    rw [merged] at files
    exact ⟨row, written, table, key, held, admits, files.unique held (files_withTable held key _)⟩

/-- Updating succeeds exactly if inserting does, and files the row of the entity in the place of the
record of its key. -/
theorem effect_update_eq_ok_iff :
    (repository.update entity value).effect keyspace = (.ok (), later) ↔
      ∃ row key, (repository.toRow entity value).effect () = (.ok row, ()) ∧
        keyspace.Admits entity.layout.name key row ∧
        keyspace.Files entity.layout.name key row later := by
  rw [update_eq_saveWith, effect_saveWith_eq_ok_iff]
  simp only [effect_replace_eq_storing, storing_eq_ok_iff]
  constructor
  · rintro ⟨row, written, table, key, held, admits, rfl⟩
    refine ⟨row, key, written, ⟨table, held, admits⟩, ?_⟩
    rw [Table.replaced, (solid_of_effect_toRow written).image_eq]
    exact files_withTable held key row
  · rintro ⟨row, key, written, ⟨table, held, admits⟩, files⟩
    refine ⟨row, written, table, key, held, admits, ?_⟩
    rw [Table.replaced, (solid_of_effect_toRow written).image_eq]
    exact files.unique held (files_withTable held key row)

/-- Without a record of its key, inserting an entity is updating it. -/
theorem effect_insert_eq_update
    (absent : ∀ row key, (repository.toRow entity value).effect () = (.ok row, ()) →
      keyspace.keyOf? entity.layout.name row = some key →
        keyspace.record? entity.layout.name key = none) :
    (repository.insert entity value).effect keyspace =
      (repository.update entity value).effect keyspace := by
  rw [insert_eq_saveWith, update_eq_saveWith, effect_saveWith, effect_saveWith]
  rcases written : (repository.toRow entity value).effect () with ⟨result, last⟩
  cases result with
  | error e => rfl
  | ok row =>
    have solid := solid_of_effect_toRow written
    have same := storing_merged_eq_storing_replaced solid (absent row · written)
    simp only [onKeyspace, Action.effect_mapError, effect_upsert_eq_storing,
      effect_replace_eq_storing, same]

/-- Inserting files, under the key of the row of an entity, the cells of the row and behind them
the cells that were stored, so that no stored column is lost. Updating files the row itself. Nothing
else changes either way; without a record of the key both come to the same, and both can be
repeated. -/
theorem saving_files_row (repository : Repository κ) (entity : Entity κ α) (value : α)
    (keyspace : Keyspace) :
    (∀ later, (repository.insert entity value).effect keyspace = (.ok (), later) →
      ∃ row key record, (repository.toRow entity value).effect () = (.ok row, ()) ∧
        keyspace.keyOf? entity.layout.name row = some key ∧
        keyspace.Files entity.layout.name key record later ∧
        (∀ column : String, record[column]? =
          row[column]?.or ((keyspace.record? entity.layout.name key).bind (·[column]?))) ∧
        ∀ stored, keyspace.record? entity.layout.name key = some stored →
          ∀ column ∈ stored, column ∈ record) ∧
    (∀ later, (repository.update entity value).effect keyspace = (.ok (), later) →
      ∃ row key, (repository.toRow entity value).effect () = (.ok row, ()) ∧
        keyspace.keyOf? entity.layout.name row = some key ∧
        keyspace.Files entity.layout.name key row later) ∧
    ((∀ row key, (repository.toRow entity value).effect () = (.ok row, ()) →
        keyspace.keyOf? entity.layout.name row = some key →
          keyspace.record? entity.layout.name key = none) →
      (repository.insert entity value).effect keyspace =
        (repository.update entity value).effect keyspace) ∧
    (repository.insert entity value).effect ((repository.insert entity value).effect keyspace).2 =
      (repository.insert entity value).effect keyspace ∧
    (repository.update entity value).effect ((repository.update entity value).effect keyspace).2 =
      (repository.update entity value).effect keyspace := by
  refine ⟨?_, ?_, effect_insert_eq_update, effect_insert_insert value keyspace,
    effect_update_update value keyspace⟩
  · intro later ok
    obtain ⟨row, key, record, written, admits, files, cells⟩ := effect_insert_eq_ok_iff.1 ok
    refine ⟨row, key, record, written, admits.keyOf?_eq, files, cells, ?_⟩
    intro stored held column mem
    rw [Std.ExtTreeMap.mem_iff_isSome_getElem?] at mem ⊢
    simp [cells column, held, mem]
  · intro later ok
    obtain ⟨row, key, written, admits, files⟩ := effect_update_eq_ok_iff.1 ok
    exact ⟨row, key, written, admits.keyOf?_eq, files⟩

/-- A badge without a label is saved over one with a label: inserting keeps the label, and updating
drops it. Another badge may be saved either way. -/
theorem saving_files_row_badges :
    let repository : Repository FieldType := ⟨⟨[], {}⟩, {}⟩
    let labelled : Row := ((∅ : Row).insert "id" (.text "a")).insert "label" (.text "red")
    let rows : Std.ExtTreeMap String Row := ∅
    let table : Table := { layout := Badge.entity.layout, rows := rows.insert "a" labelled }
    let keyspace := Keyspace.withTable { name := "kcc", tables := ∅ } "badge" (some table)
    (∃ later record,
      (repository.insert Badge.entity ⟨"a", none⟩).effect keyspace = (.ok (), later) ∧
        later.record? "badge" "a" = some record ∧ record["label"]? = some (.text "red")) ∧
    (∃ later record,
      (repository.update Badge.entity ⟨"a", none⟩).effect keyspace = (.ok (), later) ∧
        later.record? "badge" "a" = some record ∧ record["label"]? = none) ∧
    (repository.insert Badge.entity ⟨"b", none⟩).effect keyspace =
      (repository.update Badge.entity ⟨"b", none⟩).effect keyspace := by
  intro repository labelled rows table keyspace
  have held : keyspace.tables[Badge.entity.layout.name]? = some table :=
    getElem?_tables_withTable_self ..
  have written (id : String) : (repository.toRow Badge.entity ⟨id, none⟩).effect () =
      (.ok ((∅ : Row).insert "id" (.text id)), ()) := rfl
  have admits (id : String) : table.layout.Admits id ((∅ : Row).insert "id" (.text id)) := by
    refine ⟨?_, Std.ExtTreeMap.getElem?_insert_self⟩
    intro column cell present
    obtain ⟨rfl, rfl⟩ : "id" = column ∧ .text id = cell := by
      simpa [Std.ExtTreeMap.getElem?_insert] using present
    exact (TableLayout.declares_iff_find? ..).2 rfl
  have carried (row : Row) (id key : String)
      (row_eq : (repository.toRow Badge.entity ⟨id, none⟩).effect () = (.ok row, ()))
      (keyed : keyspace.keyOf? Badge.entity.layout.name row = some key) :
      row = (∅ : Row).insert "id" (.text id) ∧ key = id := by
    obtain rfl : _ = row := by simpa [written] using row_eq
    exact ⟨rfl, Option.some.inj (keyed.symm.trans (keyOf?_eq_some held (admits id)))⟩
  refine ⟨?_, ?_, ?_⟩
  · obtain ⟨inserting, -⟩ := saving_files_row repository Badge.entity ⟨"a", none⟩ keyspace
    have inserted := effect_insert (written "a") held (admits "a")
    obtain ⟨row, key, record, row_eq, keyed, files, cells, -⟩ := inserting _ inserted
    obtain ⟨rfl, rfl⟩ := carried row "a" key row_eq keyed
    have stored : keyspace.record? Badge.entity.layout.name "a" = some labelled := by
      simp [record?, held, table]
    refine ⟨_, record, inserted, files.record_eq, ?_⟩
    rw [cells "label", stored]
    rfl
  · obtain ⟨-, updating, -⟩ := saving_files_row repository Badge.entity ⟨"a", none⟩ keyspace
    have updated := effect_update (written "a") held (admits "a")
    obtain ⟨row, key, row_eq, keyed, files⟩ := updating _ updated
    obtain ⟨rfl, rfl⟩ := carried row "a" key row_eq keyed
    exact ⟨_, _, updated, files.record_eq, rfl⟩
  · obtain ⟨-, -, fresh, -⟩ := saving_files_row repository Badge.entity ⟨"b", none⟩ keyspace
    refine fresh ?_
    intro row key row_eq keyed
    obtain ⟨rfl, rfl⟩ := carried row "b" key row_eq keyed
    simp [record?, held, table, rows]

end Repository

end Cellwise

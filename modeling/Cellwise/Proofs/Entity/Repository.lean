import Cellwise.Entity.Repository
import Cellwise.Proofs.Effect
import Cellwise.Proofs.Store.Acceptance
import Cellwise.Proofs.Store.Locality
import Cellwise.Proofs.Store.Projection

/-!
# What a repository does to its keyspace

A repository that has written the row of an entity does no more than to hand it to the keyspace, so
that its effect is one on the table of the entity. Loading leaves the keyspace as it is: what it
answers with is what comes of the row that the keyspace answers with (`Repository.loaded`).
-/

namespace Cellwise

namespace Keyspace

variable {keyspace : Keyspace} {name key : String} {table : Table} {row : Row}

theorem withTable_withTable (keyspace : Keyspace) (name : String) (before after : Option Table) :
    (keyspace.withTable name before).withTable name after = keyspace.withTable name after := by
  refine ext_tables (by simp) fun other => ?_
  simp only [getElem?_tables_withTable]
  split <;> rfl

theorem getElem?_tables_withTable_self (keyspace : Keyspace) (name : String)
    (slot : Option Table) : (keyspace.withTable name slot).tables[name]? = slot := by
  rw [getElem?_tables_withTable, if_pos rfl]

/-- A created table is there: as it was, or without rows. -/
theorem effect_createTable (keyspace : Keyspace) (layout : TableLayout) :
    (createTable layout).effect keyspace =
      (.ok (keyspace.tables[layout.name]?).isNone, keyspace.withTable layout.name
        (some (keyspace.tables[layout.name]?.getD { layout, rows := ∅ }))) := by
  rcases keyspace.run_createTable layout with ⟨result, state⟩
  refine Prod.ext result (state.trans ?_)
  cases held : keyspace.tables[layout.name]? with
  | none => rfl
  | some table => exact (keyspace.withTable_of_getElem? held).symm

theorem effect_truncate (held : keyspace.tables[name]? = some table) :
    (truncate name).effect keyspace =
      (.ok (), keyspace.withTable name (some { table with rows := ∅ })) := by
  rcases keyspace.run_truncate_of_some held with ⟨result, state⟩
  exact Prod.ext result state

theorem effect_upsert (held : keyspace.tables[name]? = some table)
    (admits : table.layout.Admits key row) :
    (upsert name row).effect keyspace =
      (.ok (), keyspace.withTable name (some (table.merged key row))) := by
  rw [Action.effect, run_upsert_of_some keyspace row held,
    (table.checkRow_eq_ok_iff row key).2 admits]

theorem effect_replace (held : keyspace.tables[name]? = some table)
    (admits : table.layout.Admits key row) :
    (replace name row).effect keyspace =
      (.ok (), keyspace.withTable name (some (table.replaced key row))) := by
  rw [Action.effect, run_replace_of_some keyspace row held,
    (table.checkRow_eq_ok_iff row key).2 admits]

theorem effect_select (held : keyspace.tables[name]? = some table) (key : String) :
    (select name key none).effect keyspace = (.ok table.rows[key]?, keyspace) := by
  rw [Action.effect, run_select_of_some keyspace key none held]

/-- A record is selected exactly if its table is there. -/
theorem effect_select_eq_ok_iff {later : Keyspace} {slot : Option Row} :
    (select name key none).effect keyspace = (.ok slot, later) ↔
      later = keyspace ∧ ∃ table, keyspace.tables[name]? = some table ∧
        slot = table.rows[key]? := by
  cases held : keyspace.tables[name]? with
  | none =>
    rw [Action.effect, run_select_of_none held]
    simp
  | some table =>
    rw [effect_select held]
    simp [eq_comm, and_comm]

theorem effect_count (held : keyspace.tables[name]? = some table) :
    (count name).effect keyspace = (.ok table.rows.size, keyspace) := by
  rw [Action.effect, run_count_of_some keyspace held]

end Keyspace

namespace Repository

open Keyspace

variable {κ : Type} [FieldFamily κ] {α : Type} {repository : Repository κ} {entity : Entity κ α}
  {keyspace later : Keyspace} {table : Table} {value : α} {row : Row} {key : String}

theorem effect_onKeyspace_of_ok {action : StoreAction α}
    (ok : action.effect keyspace = (.ok value, later)) :
    (onKeyspace action).effect keyspace = (.ok value, later) := Action.effect_mapError_of_ok ok _

theorem effect_onKeyspace_of_error {action : StoreAction α} {e : StoreError}
    (error : action.effect keyspace = (.error e, later)) :
    (onKeyspace action).effect keyspace = (.error (.store e), later) :=
  Action.effect_mapError_of_error error _

theorem effect_logSaving (message : String) (entity : Entity κ α) (value : α) (row : Row)
    (keyspace : Keyspace) :
    (logSaving message entity value row).effect keyspace = (.ok (), keyspace) := rfl

/-- The table of an entity as preparing leaves it, given the one that is there. -/
def preparedTable (settings : KeyspaceSettings) (layout : TableLayout) (slot : Option Table) :
    Table :=
  let table := slot.getD { layout, rows := ∅ }
  if settings.truncateOnSetup then { table with rows := ∅ } else table

/-- Where missing tables are created, preparing does not fail. -/
theorem effect_prepare (creates : repository.settings.createTables = true) (keyspace : Keyspace) :
    (repository.prepare entity).effect keyspace =
      (.ok (), keyspace.withTable entity.layout.name (some (preparedTable repository.settings
        entity.layout keyspace.tables[entity.layout.name]?))) := by
  have created := effect_onKeyspace_of_ok (keyspace.effect_createTable entity.layout)
  rw [prepare, if_pos creates, Action.effect_bind_of_ok created]
  -- Truncating finds the table that has just been made sure of.
  by_cases truncates : repository.settings.truncateOnSetup = true
  · simp only [truncates, if_true, preparedTable]
    rw [effect_onKeyspace_of_ok (effect_truncate (getElem?_tables_withTable_self ..)),
      withTable_withTable]
  · simp only [truncates, preparedTable, Bool.false_eq_true, if_false]
    rfl

section Absent

variable (absent : keyspace.tables[entity.layout.name]? = none)
include absent

/-- Where missing tables are not created, preparing fails only if there is something to empty. -/
theorem effect_prepare_of_none (creates : repository.settings.createTables = false) :
    (repository.prepare entity).effect keyspace =
      if repository.settings.truncateOnSetup then
        (.error (.store (.tableNotFound entity.layout.name)), keyspace)
      else (.ok (), keyspace) := by
  have truncated : (truncate entity.layout.name).effect keyspace =
      (.error (.tableNotFound entity.layout.name), keyspace) := by
    rw [Action.effect, run_truncate_of_none absent]
  rw [prepare, if_neg (by simp [creates])]
  split
  next => exact effect_onKeyspace_of_error truncated
  next => rfl

theorem effect_insert_of_none
    (written : (repository.toRow entity value).effect () = (.ok row, ())) :
    (repository.insert entity value).effect keyspace =
      (.error (.store (.tableNotFound entity.layout.name)), keyspace) := by
  have written : (Action.ofReport (repository.toRow entity value)).effect keyspace =
      (.ok row, keyspace) := by
    rw [Action.effect_ofReport, written]
  have refused : (upsert entity.layout.name row).effect keyspace =
      (.error (.tableNotFound entity.layout.name), keyspace) := by
    rw [Action.effect, run_upsert_of_none absent]
  rw [insert, Action.effect_bind_of_ok written, Action.effect_bind_of_ok (effect_logSaving ..)]
  exact effect_onKeyspace_of_error refused

end Absent

/-- An entity whose row the table admits is written over what is stored under its key. -/
theorem effect_insert (written : (repository.toRow entity value).effect () = (.ok row, ()))
    (held : keyspace.tables[entity.layout.name]? = some table)
    (admits : table.layout.Admits key row) :
    (repository.insert entity value).effect keyspace =
      (.ok (), keyspace.withTable entity.layout.name (some (table.merged key row))) := by
  have written : (Action.ofReport (repository.toRow entity value)).effect keyspace =
      (.ok row, keyspace) := by
    rw [Action.effect_ofReport, written]
  rw [insert, Action.effect_bind_of_ok written, Action.effect_bind_of_ok (effect_logSaving ..)]
  exact effect_onKeyspace_of_ok (effect_upsert held admits)

/-- An entity whose row the table admits takes the place of what is stored under its key. -/
theorem effect_update (written : (repository.toRow entity value).effect () = (.ok row, ()))
    (held : keyspace.tables[entity.layout.name]? = some table)
    (admits : table.layout.Admits key row) :
    (repository.update entity value).effect keyspace =
      (.ok (), keyspace.withTable entity.layout.name (some (table.replaced key row))) := by
  have written : (Action.ofReport (repository.toRow entity value)).effect keyspace =
      (.ok row, keyspace) := by
    rw [Action.effect_ofReport, written]
  rw [update, Action.effect_bind_of_ok written, Action.effect_bind_of_ok (effect_logSaving ..)]
  exact effect_onKeyspace_of_ok (effect_replace held admits)

/-! ## Loading -/

/-- What comes of the row that is found, if one is. -/
def loaded (repository : Repository κ) (entity : Entity κ α) :
    Option Row → Except MappingError (Option α)
  | none => .ok none
  | some row => ((repository.fromRow entity row).effect ()).1.map some

theorem effect_load (repository : Repository κ) (entity : Entity κ α) (slot : Option Row)
    (keyspace : Keyspace) :
    (repository.load entity slot).effect keyspace = (repository.loaded entity slot, keyspace) := by
  cases slot with
  | none => rfl
  | some row =>
    have read := Action.effect_ofReport (repository.fromRow entity row) keyspace
    rw [load, loaded]
    cases result : ((repository.fromRow entity row).effect ()).1 with
    | error e => exact Action.effect_bind_of_error (read.trans (by rw [result]))
    | ok value => exact Action.effect_bind_of_ok (read.trans (by rw [result]))

/-- Loading answers with what comes of the row that the keyspace answers with. -/
theorem effect_load_selected {action : StoreAction (Option Row)} {slot : Option Row}
    (selected : action.effect keyspace = (.ok slot, later)) :
    (onKeyspace action >>= repository.load entity).effect keyspace =
      (repository.loaded entity slot, later) :=
  (Action.effect_bind_of_ok (effect_onKeyspace_of_ok selected)).trans (effect_load ..)

theorem effect_selectOne_eq (held : keyspace.tables[entity.layout.name]? = some table)
    (key : String) :
    (repository.selectOne entity key).effect keyspace =
      (repository.loaded entity table.rows[key]?, keyspace) :=
  effect_load_selected (effect_select held key)

theorem effect_selectOneColumns_eq {columns : List String}
    (held : keyspace.tables[entity.layout.name]? = some table)
    (declared : ∀ column ∈ columns, column ∈ table.layout.columnNames) (key : String) :
    (repository.selectOneColumns entity key columns).effect keyspace =
      (repository.loaded entity (table.rows[key]?.map (·.project columns)), keyspace) :=
  effect_load_selected (effect_select_columns held declared key)

theorem loaded_of_ok (read : (repository.fromRow entity row).effect () = (.ok value, ())) :
    repository.loaded entity (some row) = .ok (some value) := by
  rw [loaded, read]
  rfl

theorem loaded_eq_some {slot : Option Row} {value : α}
    (found : repository.loaded entity slot = .ok (some value)) :
    ∃ row, slot = some row ∧ (repository.fromRow entity row).effect () = (.ok value, ()) := by
  cases slot with
  | none => simp [loaded] at found
  | some row =>
    refine ⟨row, rfl, ?_⟩
    rcases run : (repository.fromRow entity row).effect () with ⟨result, last⟩
    cases result with
    | error e => simp [loaded, run, Except.map] at found
    | ok other =>
      obtain rfl : other = value := by simpa [loaded, run, Except.map] using found
      rfl

theorem effect_selectOne_of_some (held : keyspace.tables[entity.layout.name]? = some table)
    (stored : table.rows[key]? = some row)
    (read : (repository.fromRow entity row).effect () = (.ok value, ())) :
    (repository.selectOne entity key).effect keyspace = (.ok (some value), keyspace) := by
  rw [effect_selectOne_eq held, stored, loaded_of_ok read]

theorem effect_selectOne_of_none (held : keyspace.tables[entity.layout.name]? = some table)
    (absent : table.rows[key]? = none) :
    (repository.selectOne entity key).effect keyspace = (.ok none, keyspace) := by
  rw [effect_selectOne_eq held, absent, loaded]

section Answers

variable {answer : Option α}

/-- An entity is loaded exactly if the keyspace answers and what it answers with can be read. -/
theorem effect_load_eq_ok_iff {action : StoreAction (Option Row)} :
    (onKeyspace action >>= repository.load entity).effect keyspace = (.ok answer, later) ↔
      ∃ slot, action.effect keyspace = (.ok slot, later) ∧
        repository.loaded entity slot = .ok answer := by
  rcases run : action.effect keyspace with ⟨result, last⟩
  cases result with
  | error error =>
    have refused : (onKeyspace action).effect keyspace = (.error (.store error), last) :=
      effect_onKeyspace_of_error run
    rw [Action.effect_bind_of_error refused]
    simp
  | ok slot =>
    rw [effect_load_selected run]
    simp [and_comm]

theorem effect_selectOne_eq_ok_iff :
    (repository.selectOne entity key).effect keyspace = (.ok answer, later) ↔
      later = keyspace ∧ ∃ table, keyspace.tables[entity.layout.name]? = some table ∧
        repository.loaded entity table.rows[key]? = .ok answer := by
  rw [selectOne, effect_load_eq_ok_iff]
  simp only [effect_select_eq_ok_iff]
  constructor
  · rintro ⟨slot, ⟨same, table, held, rfl⟩, read⟩
    exact ⟨same, table, held, read⟩
  · rintro ⟨same, table, held, read⟩
    exact ⟨_, ⟨same, table, held, rfl⟩, read⟩

theorem effect_selectOneColumns_eq_ok_iff {columns : List String} :
    (repository.selectOneColumns entity key columns).effect keyspace = (.ok answer, later) ↔
      later = keyspace ∧ ∃ table, keyspace.tables[entity.layout.name]? = some table ∧
        (∀ column ∈ columns, column ∈ table.layout.columnNames) ∧
        repository.loaded entity (table.rows[key]?.map (·.project columns)) = .ok answer := by
  rw [selectOneColumns, effect_load_eq_ok_iff]
  simp only [effect_select_columns_eq_ok_iff]
  constructor
  · rintro ⟨slot, ⟨same, table, held, declared, rfl⟩, read⟩
    exact ⟨same, table, held, declared, read⟩
  · rintro ⟨same, table, held, declared, read⟩
    exact ⟨_, ⟨same, table, held, declared, rfl⟩, read⟩

end Answers

end Repository

end Cellwise

import Cellwise.Proofs.Effect
import Cellwise.Proofs.Store.Acceptance
import Cellwise.Proofs.Store.Locality

/-!
# Rows restricted to columns

Selecting some columns of a stored row answers with the restricted row, provided that every column
named is declared; whether there is such a row does not matter for that. A row that a layout admits
has no other columns than declared ones, so that nothing is lost if all of them are named.
-/

namespace Cellwise

namespace Row

theorem getElem?_project (row : Row) (columns : List String) (column : String) :
    (row.project columns)[column]? = if column ∈ columns then row[column]? else none := by
  rw [project]
  cases held : row[column]? with
  | none => simp [held]
  | some cell =>
    split
    next listed => simp [held, listed]
    next unlisted => simp [held, unlisted]

/-- Nothing of a row is lost if all of its columns are named. -/
theorem project_eq_self {row : Row} {columns : List String}
    (named : ∀ (column : String) (cell : Cell), row[column]? = some cell → column ∈ columns) :
    row.project columns = row := by
  refine Std.ExtTreeMap.ext_getElem? fun {column} => ?_
  rw [getElem?_project]
  split
  next => rfl
  next unnamed =>
    cases held : row[column]? with
    | none => rfl
    | some cell => exact absurd (named column cell held) unnamed

end Row

namespace TableLayout

variable {layout : TableLayout}

/-- The names of the declared columns. -/
def columnNames (layout : TableLayout) : List String := layout.columns.map (·.name)

theorem isSome_find?_iff {column : String} :
    (layout.find? column).isSome = true ↔ column ∈ layout.columnNames := by
  simp [find?, columnNames]

theorem Declares.mem_columnNames {column : String} {kind : CellKind}
    (declares : layout.Declares column kind) : column ∈ layout.columnNames := by
  rw [← isSome_find?_iff, layout.declares_iff_find?.1 declares]
  rfl

theorem Admits.project_columnNames {key : String} {row : Row} (admits : layout.Admits key row) :
    row.project layout.columnNames = row := by
  refine Row.project_eq_self fun column cell held => ?_
  exact (admits.declared column cell held).mem_columnNames

end TableLayout

theorem Table.checkColumns_eq_ok_iff (table : Table) (columns : List String) :
    table.checkColumns columns = .ok () ↔ ∀ column ∈ columns, column ∈ table.layout.columnNames := by
  simp only [← TableLayout.isSome_find?_iff]
  rw [checkColumns]
  cases undeclared : columns.find? fun column => (table.layout.find? column).isNone with
  | none => simpa [List.find?_eq_none, Option.isSome_iff_ne_none] using undeclared
  | some column =>
    have mem := List.mem_of_find?_eq_some undeclared
    have absent := List.find?_some undeclared
    simp only [reduceCtorEq, false_iff]
    intro all
    have present := all column mem
    rw [Option.isNone_iff_eq_none.1 absent] at present
    cases present

/-- The first name that is not declared is blamed, whatever stands behind it. -/
theorem Table.checkColumns_of_undeclared {table : Table} {before : List String} {column : String}
    (declared : ∀ earlier ∈ before, earlier ∈ table.layout.columnNames)
    (undeclared : column ∉ table.layout.columnNames) (after : List String) :
    table.checkColumns (before ++ column :: after) =
      .error (.unknownColumn table.layout.name column) := by
  have absent : (table.layout.find? column).isNone = true := by
    rw [Option.isNone_iff_eq_none, ← Option.not_isSome_iff_eq_none]
    exact fun present => undeclared (TableLayout.isSome_find?_iff.1 present)
  have found : (before ++ column :: after).find? (fun name => (table.layout.find? name).isNone) =
      some column := by
    refine List.find?_eq_some_iff_append.2 ⟨absent, before, after, rfl, ?_⟩
    intro earlier mem
    have present := TableLayout.isSome_find?_iff.2 (declared earlier mem)
    simpa using present
  rw [checkColumns, found]

theorem Keyspace.effect_select_of_undeclared {keyspace : Keyspace} {name : String} {table : Table}
    {before : List String} {column : String} (held : keyspace.tables[name]? = some table)
    (declared : ∀ earlier ∈ before, earlier ∈ table.layout.columnNames)
    (undeclared : column ∉ table.layout.columnNames) (after : List String) (key : String) :
    (Keyspace.select name key (some (before ++ column :: after))).effect keyspace =
      (.error (.unknownColumn table.layout.name column), keyspace) := by
  rw [Action.effect, run_select_of_some keyspace key _ held]
  simp only [Table.checkColumns_of_undeclared declared undeclared after]
  rfl

theorem Keyspace.effect_select_columns {keyspace : Keyspace} {name : String} {table : Table}
    {columns : List String} (held : keyspace.tables[name]? = some table)
    (declared : ∀ column ∈ columns, column ∈ table.layout.columnNames) (key : String) :
    (Keyspace.select name key (some columns)).effect keyspace =
      (.ok (table.rows[key]?.map fun row => row.project columns), keyspace) := by
  rw [Action.effect, run_select_of_some keyspace key (some columns) held]
  simp only [(table.checkColumns_eq_ok_iff columns).2 declared]
  rfl

/-- Some columns of a record are selected exactly if its table is there and declares them. -/
theorem Keyspace.effect_select_columns_eq_ok_iff {keyspace later : Keyspace} {name key : String}
    {columns : List String} {slot : Option Row} :
    (Keyspace.select name key (some columns)).effect keyspace = (.ok slot, later) ↔
      later = keyspace ∧ ∃ table, keyspace.tables[name]? = some table ∧
        (∀ column ∈ columns, column ∈ table.layout.columnNames) ∧
        slot = table.rows[key]?.map (·.project columns) := by
  cases held : keyspace.tables[name]? with
  | none =>
    rw [Action.effect, run_select_of_none held]
    simp
  | some table =>
    rw [Action.effect, run_select_of_some keyspace key (some columns) held]
    cases checked : table.checkColumns columns with
    | error error =>
      have undeclared : ¬∀ column ∈ columns, column ∈ table.layout.columnNames := by
        intro declared
        cases checked.symm.trans ((table.checkColumns_eq_ok_iff columns).2 declared)
      simp [checked, Except.map, undeclared]
    | ok done =>
      have declared := (table.checkColumns_eq_ok_iff columns).1 checked
      simp [checked, Except.map, eq_true declared, eq_comm, and_comm]

end Cellwise

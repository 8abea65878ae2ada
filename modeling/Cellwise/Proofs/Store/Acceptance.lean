import Cellwise.Proofs.Walk
import Cellwise.Store.Keyspace

/-!
# Which rows a table takes

A layout admits a row under a key when the first declaration of every column of the row gives it
the kind of the cell, and when the key column holds the key as a text. `Table.checkRow_eq_ok_iff`
says that the check of a row succeeds exactly then, with that key as its answer.
-/

namespace Cellwise

namespace Row

theorem text?_eq_some_iff (row : Row) (column text : String) :
    row.text? column = some text ↔ row[column]? = some (.text text) := by
  rw [Row.text?]
  cases row[column]? with
  | none => simp
  | some cell => cases cell <;> simp [Cell.text?]

end Row

namespace TableLayout

variable (layout : TableLayout)

/-- The first declaration of a column gives it a kind. -/
def Declares (column : String) (kind : CellKind) : Prop :=
  ∃ before after, layout.columns = before ++ ⟨column, kind⟩ :: after ∧
    ∀ earlier ∈ before, earlier.name ≠ column

theorem find?_eq_some_iff {column : String} {declared : Column} :
    layout.find? column = some declared ↔
      declared.name = column ∧ layout.Declares column declared.kind := by
  rw [find?, List.find?_eq_some_iff_append]
  constructor
  · rintro ⟨name, before, after, split, first⟩
    have name : declared.name = column := by simpa using name
    subst name
    exact ⟨rfl, before, after, split, fun earlier mem => by simpa using first earlier mem⟩
  · rintro ⟨rfl, before, after, split, first⟩
    exact ⟨by simp, before, after, split, fun earlier mem => by simpa using first earlier mem⟩

theorem declares_iff_find? {column : String} {kind : CellKind} :
    layout.Declares column kind ↔ layout.find? column = some ⟨column, kind⟩ := by
  simp [find?_eq_some_iff]

/-- A layout admits a row under a key: every column is declared with the kind of its cell, and the
key column holds the key. -/
structure Admits (key : String) (row : Row) : Prop where
  declared : ∀ (column : String) (cell : Cell),
    row[column]? = some cell → layout.Declares column cell.kind
  keyed : row[layout.keyColumn]? = some (.text key)

end TableLayout

namespace Table

variable (table : Table)

theorem checkCell_eq_ok_iff (column : String) (cell : Cell) :
    table.checkCell column cell = .ok () ↔ table.layout.Declares column cell.kind := by
  rw [checkCell, TableLayout.declares_iff_find?]
  cases found : table.layout.find? column with
  | none => simp
  | some declared =>
    rcases (table.layout.find?_eq_some_iff).1 found with ⟨rfl, -⟩
    cases declared
    simp only [Option.some.injEq, Column.mk.injEq, true_and]
    split <;> simp_all

theorem checkCells_eq_ok_iff (row : Row) :
    (row.toList.forM fun (column, cell) => table.checkCell column cell) = .ok () ↔
      ∀ (column : String) (cell : Cell),
        row[column]? = some cell → table.layout.Declares column cell.kind := by
  rw [forM_eq_ok_iff]
  constructor
  · intro all column cell held
    have mem : (column, cell) ∈ row.toList :=
      Std.ExtTreeMap.mem_toList_iff_getElem?_eq_some.2 held
    exact (table.checkCell_eq_ok_iff column cell).1 (all _ mem)
  · rintro all ⟨column, cell⟩ mem
    have held : row[column]? = some cell := Std.ExtTreeMap.mem_toList_iff_getElem?_eq_some.1 mem
    exact (table.checkCell_eq_ok_iff column cell).2 (all column cell held)

theorem checkRow_eq_ok_iff (row : Row) (key : String) :
    table.checkRow row = .ok key ↔ table.layout.Admits key row := by
  have cells := table.checkCells_eq_ok_iff row
  have text := row.text?_eq_some_iff table.layout.keyColumn key
  rw [checkRow]
  constructor
  · intro ok
    -- The columns are checked before the key is looked for.
    cases checked : row.toList.forM fun (column, cell) => table.checkCell column cell with
    | error e => simp [checked, bind, Except.bind] at ok
    | ok u =>
      refine ⟨cells.1 checked, text.1 ?_⟩
      simp only [checked, bind, Except.bind] at ok
      split at ok
      next found => simp_all [pure, Except.pure]
      next => cases ok
  · rintro ⟨declared, keyed⟩
    simp [cells.2 declared, text.2 keyed, bind, Except.bind, pure, Except.pure]

/-- The rows of a table do not count when a row or a list of columns is checked. -/
theorem checkRow_congr {a b : Table} (layout : a.layout = b.layout) (row : Row) :
    a.checkRow row = b.checkRow row := by
  unfold checkRow checkCell
  rw [layout]

theorem checkColumns_congr {a b : Table} (layout : a.layout = b.layout) (columns : List String) :
    a.checkColumns columns = b.checkColumns columns := by
  unfold checkColumns
  rw [layout]

end Table

end Cellwise

import Cellwise.Proofs.Row.Merge
import Cellwise.Proofs.Store.Acceptance
import Cellwise.Proofs.Store.Locality

/-!
# What every reachable keyspace keeps to

Whatever calls a keyspace has seen, its tables are filed under the names of their layouts, every
row is one that the layout admits under the key it is filed under, and no cell is an empty
collection. The layouts themselves are not checked by anything: a table whose key column is not
declared as a text stays empty for ever.
-/

namespace Cellwise

namespace TableLayout.Admits

variable {layout : TableLayout} {key : String} {row : Row}

/-- A row that is written over cells of the right kinds gives a row that is admitted again. -/
theorem mergeAll {stored : Row} (admits : layout.Admits key row)
    (declared : ∀ (column : String) (cell : Cell),
      stored[column]? = some cell → layout.Declares column cell.kind) :
    layout.Admits key (stored.mergeAll row) where
  declared column cell held := by
    rw [Row.getElem?_mergeAll] at held
    cases written : row[column]? with
    | none => exact declared column cell (by simpa [written] using held)
    | some brought =>
      have kept : brought.kept = some cell := by simpa [written] using held
      rcases Cell.kept_eq_some_iff.1 kept with ⟨rfl, -⟩
      exact admits.declared column cell written
  keyed := by simp [Row.getElem?_mergeAll, admits.keyed, Cell.kept]

/-- A row without its empty collections is admitted if the row is. -/
theorem image (admits : layout.Admits key row) : layout.Admits key row.image where
  declared column cell held := by
    rw [Row.getElem?_image] at held
    rcases Option.bind_eq_some_iff.1 held with ⟨brought, written, kept⟩
    rcases Cell.kept_eq_some_iff.1 kept with ⟨rfl, -⟩
    exact admits.declared column cell written
  keyed := by simp [Row.getElem?_image, admits.keyed, Cell.kept]

/-- Only a layout that declares its key column as a text admits any row. -/
theorem declares_key (admits : layout.Admits key row) : layout.Declares layout.keyColumn .text :=
  admits.declared _ _ admits.keyed

end TableLayout.Admits

/-! ## Sound rows, tables and keyspaces -/

/-- No cell of a row is an empty collection. -/
def Row.Solid (row : Row) : Prop :=
  ∀ (column : String) (cell : Cell), row[column]? = some cell → cell ≠ .list [] ∧ cell ≠ .set ∅

namespace Row

theorem solid_empty : Row.Solid ∅ := by
  intro column cell held
  simp at held

theorem Solid.mergeAll {stored : Row} (solid : stored.Solid) (row : Row) :
    (stored.mergeAll row).Solid := by
  intro column cell held
  rw [getElem?_mergeAll] at held
  cases written : row[column]? with
  | none => exact solid column cell (by simpa [written] using held)
  | some brought =>
    have kept : brought.kept = some cell := by simpa [written] using held
    rcases Cell.kept_eq_some_iff.1 kept with ⟨rfl, nonempty⟩
    exact nonempty

/-- Nothing is lost of a row without empty collections that is stored in place of another. -/
theorem Solid.image_eq {row : Row} (solid : row.Solid) : row.image = row := by
  refine Std.ExtTreeMap.ext_getElem? fun {column} => ?_
  rw [getElem?_image]
  cases held : row[column]? with
  | none => rfl
  | some cell => exact Cell.kept_eq_some_iff.2 ⟨rfl, solid column cell held⟩

theorem Solid.mergeAll_empty {row : Row} (solid : row.Solid) : (∅ : Row).mergeAll row = row := by
  refine Std.ExtTreeMap.ext_getElem? fun {column} => ?_
  rw [getElem?_mergeAll]
  cases held : row[column]? with
  | none => simp
  | some cell => exact Cell.kept_eq_some_iff.2 ⟨rfl, solid column cell held⟩

theorem solid_image (row : Row) : row.image.Solid := by
  intro column cell held
  rcases Option.bind_eq_some_iff.1 (getElem?_image row column ▸ held) with ⟨brought, -, kept⟩
  rcases Cell.kept_eq_some_iff.1 kept with ⟨rfl, nonempty⟩
  exact nonempty

end Row

namespace Table

/-- A table that is filed under its own name and holds admitted rows without empty collections,
each under its key. -/
structure Sound (name : String) (table : Table) : Prop where
  filed : table.layout.name = name
  admitted : ∀ (key : String) (row : Row), table.rows[key]? = some row → table.layout.Admits key row
  solid : ∀ (key : String) (row : Row), table.rows[key]? = some row → row.Solid

variable {name : String} {table : Table}

theorem sound_of_no_rows (layout : TableLayout) : Sound layout.name { layout, rows := ∅ } where
  filed := rfl
  admitted key row held := by simp at held
  solid key row held := by simp at held

/-- Filing one more row keeps a table sound if the row is admitted and without empty
collections. -/
theorem Sound.insert (sound : table.Sound name) {key : String} {row : Row}
    (admits : table.layout.Admits key row) (solid : row.Solid) :
    Sound name { table with rows := table.rows.insert key row } where
  filed := sound.filed
  admitted other held := by
    simp only [Std.ExtTreeMap.getElem?_insert, Std.LawfulEqCmp.compare_eq_iff_eq]
    split
    next same =>
      subst same
      rintro ⟨⟩
      exact admits
    next => exact sound.admitted other held
  solid other held := by
    simp only [Std.ExtTreeMap.getElem?_insert, Std.LawfulEqCmp.compare_eq_iff_eq]
    split
    next same =>
      rintro ⟨⟩
      exact solid
    next => exact sound.solid other held

theorem Sound.replaced (sound : table.Sound name) {key : String} {row : Row}
    (admits : table.layout.Admits key row) : (table.replaced key row).Sound name :=
  sound.insert admits.image row.solid_image

theorem Sound.merged (sound : table.Sound name) {key : String} {row : Row}
    (admits : table.layout.Admits key row) : (table.merged key row).Sound name := by
  -- The fresh row of a new key is without its key until the row is written over it.
  have old : ∀ (column : String) (cell : Cell),
      (table.rows.getD key ∅)[column]? = some cell → table.layout.Declares column cell.kind := by
    intro column cell held
    cases stored : table.rows[key]? with
    | none => simp [Std.ExtTreeMap.getD_eq_getD_getElem?, stored] at held
    | some row =>
      refine (sound.admitted key row stored).declared column cell ?_
      simpa [Std.ExtTreeMap.getD_eq_getD_getElem?, stored] using held
  have solid : (table.rows.getD key ∅).Solid := by
    rw [Std.ExtTreeMap.getD_eq_getD_getElem?]
    cases stored : table.rows[key]? with
    | none => exact Row.solid_empty
    | some row => exact sound.solid key row stored
  exact sound.insert (admits.mergeAll old) (solid.mergeAll row)

/-- A table whose key column is not declared as a text has no rows. -/
theorem Sound.rows_eq_empty (sound : table.Sound name)
    (undeclared : ¬table.layout.Declares table.layout.keyColumn .text) : table.rows = ∅ := by
  refine Std.ExtTreeMap.ext_getElem? fun {key} => ?_
  cases held : table.rows[key]? with
  | none => simp
  | some row => exact absurd (sound.admitted key row held).declares_key undeclared

end Table

namespace StoreCall

/-- A call leaves a sound table if it finds one or none. -/
theorem sound_onTable (call : StoreCall) (slot : Option Table)
    (sound : ∀ table, slot = some table → table.Sound call.table) :
    ∀ table, (call.onTable slot).2 = some table → table.Sound call.table := by
  cases slot with
  | none =>
    intro table left
    -- Only creating makes a table where there is none.
    cases call with
    | createTable layout =>
      obtain rfl : { layout, rows := ∅ } = table := by simpa [onTable, onAbsent] using left
      exact Table.sound_of_no_rows layout
    | _ => simp [onTable, onAbsent] at left
  | some present =>
    have sound := sound present rfl
    intro table left
    cases call with
    | createTable layout =>
      obtain rfl : present = table := by simpa [onTable, onPresent] using left
      exact sound
    | dropTable name => simp [onTable, onPresent] at left
    | truncate name =>
      obtain rfl : { present with rows := ∅ } = table := by simpa [onTable, onPresent] using left
      have empty := Table.sound_of_no_rows present.layout
      rwa [sound.filed] at empty
    | upsert name row =>
      cases checked : present.checkRow row with
      | error e =>
        obtain rfl : present = table := by simpa [onTable, onPresent, checked] using left
        exact sound
      | ok key =>
        obtain rfl : present.merged key row = table := by
          simpa [onTable, onPresent, checked] using left
        exact sound.merged ((present.checkRow_eq_ok_iff row key).1 checked)
    | replace name row =>
      cases checked : present.checkRow row with
      | error e =>
        obtain rfl : present = table := by simpa [onTable, onPresent, checked] using left
        exact sound
      | ok key =>
        obtain rfl : present.replaced key row = table := by
          simpa [onTable, onPresent, checked] using left
        exact sound.replaced ((present.checkRow_eq_ok_iff row key).1 checked)
    | select name key columns =>
      obtain rfl : present = table := by
        cases columns with
        | none => simpa [onTable, onPresent] using left
        | some columns =>
          cases checked : present.checkColumns columns <;>
            simpa [onTable, onPresent, checked] using left
      exact sound
    | count name =>
      obtain rfl : present = table := by simpa [onTable, onPresent] using left
      exact sound

end StoreCall

namespace Keyspace

/-- A keyspace all of whose tables are sound. -/
def Sound (keyspace : Keyspace) : Prop :=
  ∀ (name : String) (table : Table), keyspace.tables[name]? = some table → table.Sound name

theorem Sound.perform {keyspace : Keyspace} (sound : keyspace.Sound) (call : StoreCall) :
    (call.perform.run keyspace).state.Sound := by
  intro name table held
  rw [call.getElem?_tables_perform keyspace name] at held
  split at held
  next same =>
    subst same
    exact call.sound_onTable _ (sound call.table) table held
  next => exact sound name table held

/-- Opening a keyspace gives one without tables. -/
theorem eq_of_openEmpty {settings : KeyspaceSettings} {start : Keyspace}
    (opened : ((openEmpty settings).run ()).result = .ok start) :
    start = { name := settings.name, tables := ∅ } := by
  rw [openEmpty, Action.run_bind] at opened
  cases accepted : settings.validate with
  | error e => simp [accepted] at opened
  | ok u => simpa [accepted, Action.run_bind, Action.log, eq_comm] using opened

end Keyspace

/-- What holds of a keyspace and is kept by every call holds after any calls. -/
theorem StoreCall.performAll_induction {motive : Keyspace → Prop}
    (step : ∀ (call : StoreCall) (keyspace : Keyspace),
      motive keyspace → motive (call.perform.run keyspace).state)
    (calls : List StoreCall) (keyspace : Keyspace) (start : motive keyspace) :
    motive (StoreCall.performAll calls keyspace).2 := by
  induction calls generalizing keyspace with
  | nil => exact start
  | cons call calls ih => exact ih _ (step call keyspace start)

namespace Keyspace

theorem sound_performAll {settings : KeyspaceSettings} {start : Keyspace}
    (opened : ((openEmpty settings).run ()).result = .ok start) (calls : List StoreCall) :
    (StoreCall.performAll calls start).2.Sound := by
  apply StoreCall.performAll_induction (fun call _ sound => sound.perform call)
  intro name table held
  simp [eq_of_openEmpty opened] at held

/-- Every keyspace that calls lead to is sound, and a table of it whose key column is not declared
as a text first has no rows. -/
theorem sound_of_calls {settings : KeyspaceSettings} {start : Keyspace}
    (opened : ((openEmpty settings).run ()).result = .ok start) (calls : List StoreCall) :
    (StoreCall.performAll calls start).2.Sound ∧
      ∀ (name : String) (table : Table),
        (StoreCall.performAll calls start).2.tables[name]? = some table →
          ¬table.layout.Declares table.layout.keyColumn .text → table.rows = ∅ := by
  have sound := sound_performAll opened calls
  exact ⟨sound, fun name table held undeclared => (sound name table held).rows_eq_empty undeclared⟩

/-- A key column that is declared as a list first and as a text later keeps its table empty. -/
theorem sound_of_calls_listed_key :
    let layout : TableLayout :=
      { name := "t", keyColumn := "id", columns := [⟨"id", .list⟩, ⟨"id", .text⟩] }
    let calls : List StoreCall :=
      [.createTable layout, .upsert "t" ((∅ : Row).insert "id" (.text "a"))]
    ((openEmpty {}).run ()).result = .ok { name := "kcc", tables := ∅ } ∧
      (StoreCall.performAll calls { name := "kcc", tables := ∅ }).2.Sound ∧
      ∃ table : Table,
        (StoreCall.performAll calls { name := "kcc", tables := ∅ }).2.tables["t"]? = some table ∧
          ¬table.layout.Declares table.layout.keyColumn .text ∧ table.rows = ∅ := by
  intro layout calls
  have opened : ((openEmpty {}).run ()).result = .ok { name := "kcc", tables := ∅ } := rfl
  have held : (StoreCall.performAll calls { name := "kcc", tables := ∅ }).2.tables["t"]? =
      some { layout, rows := ∅ } := by decide
  have undeclared : ¬layout.Declares layout.keyColumn .text := by
    rw [TableLayout.declares_iff_find?]
    decide
  have sound := sound_of_calls opened calls
  exact ⟨opened, sound.1, _, held, undeclared, sound.2 "t" _ held undeclared⟩

end Keyspace

end Cellwise

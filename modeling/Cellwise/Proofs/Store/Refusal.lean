import Mathlib.Data.String.Basic
import Cellwise.Proofs.Store.Soundness

/-!
# Why a table refuses a row

A row that a layout does not admit is refused for one reason. If there is something wrong with its
columns, the first of these in the order of names is blamed; only a row whose columns are all in
order is refused because it has no key.

* `TableLayout.Refuses` says what the reason is, and `Table.checkRow_eq_error_iff` that it is given.
* `Keyspace.writes_are_judged_alike` says that both ways to write a row accept and refuse the same
  rows for the same reasons, whatever rows the table has.
-/

namespace Cellwise

/-- In front of a column of a row stand the columns with smaller names. -/
theorem Row.mem_before_iff {row : Row} {before after : List (String × Cell)} {column : String}
    {cell : Cell} (split : row.toList = before ++ (column, cell) :: after) {name : String}
    {other : Cell} : (name, other) ∈ before ↔ row[name]? = some other ∧ name < column := by
  have ordered : (before ++ (column, cell) :: after).Pairwise fun a b => a.1 < b.1 := by
    rw [← split]
    exact Std.ExtTreeMap.ordered_keys_toList.imp compare_lt_iff_lt.1
  rw [← Std.ExtTreeMap.mem_toList_iff_getElem?_eq_some, split]
  rcases List.pairwise_append.1 ordered with ⟨-, behind, smaller⟩
  constructor
  · intro mem
    exact ⟨List.mem_append_left _ mem, smaller _ mem _ List.mem_cons_self⟩
  · rintro ⟨mem, less⟩
    rcases List.mem_append.1 mem with mem | mem
    · exact mem
    -- The column itself and those behind it do not have a smaller name.
    rcases List.mem_cons.1 mem with same | mem
    · cases same
      exact absurd less (String.lt_irrefl column)
    · have greater : column < name := List.rel_of_pairwise_cons behind mem
      exact absurd less (String.lt_asymm greater)

namespace TableLayout

variable (layout : TableLayout)

/-- What is wrong with a cell in a column. -/
inductive Faults (column : String) (cell : Cell) : StoreError → Prop where
  | undeclared (absent : ∀ kind, ¬layout.Declares column kind) :
      Faults column cell (.unknownColumn layout.name column)
  | mismatched {kind : CellKind} (declared : layout.Declares column kind)
      (apart : kind ≠ cell.kind) :
      Faults column cell (.kindMismatch layout.name column kind cell.kind)

/-- Why a layout refuses a row. -/
inductive Refuses (row : Row) : StoreError → Prop where
  | column {column : String} {cell : Cell} {error : StoreError} (held : row[column]? = some cell)
      (faults : layout.Faults column cell error)
      (first : ∀ (earlier : String) (other : Cell),
        row[earlier]? = some other → earlier < column → layout.Declares earlier other.kind) :
      Refuses row error
  | keyless
      (declared : ∀ (column : String) (cell : Cell),
        row[column]? = some cell → layout.Declares column cell.kind)
      (absent : ∀ key, row[layout.keyColumn]? ≠ some (.text key)) :
      Refuses row (.missingKey layout.name layout.keyColumn)

theorem find?_eq_none_iff {column : String} :
    layout.find? column = none ↔ ∀ kind, ¬layout.Declares column kind := by
  constructor
  · intro absent kind declares
    rw [layout.declares_iff_find?.1 declares] at absent
    cases absent
  · intro absent
    cases found : layout.find? column with
    | none => rfl
    | some declared => exact absurd (layout.find?_eq_some_iff.1 found).2 (absent declared.kind)

end TableLayout

namespace Table

variable (table : Table)

theorem checkCell_eq_error_iff {column : String} {cell : Cell} {error : StoreError} :
    table.checkCell column cell = .error error ↔ table.layout.Faults column cell error := by
  rw [checkCell]
  constructor
  · intro failed
    cases found : table.layout.find? column with
    | none =>
      obtain rfl : _ = error := by simpa [found] using failed
      exact .undeclared (table.layout.find?_eq_none_iff.1 found)
    | some declared =>
      rcases table.layout.find?_eq_some_iff.1 found with ⟨-, declares⟩
      by_cases same : declared.kind = cell.kind
      · simp [found, same] at failed
      · obtain rfl : _ = error := by simpa [found, same] using failed
        exact .mismatched declares same
  · intro faults
    cases faults with
    | undeclared absent => simp [table.layout.find?_eq_none_iff.2 absent]
    | mismatched declared apart => simp [table.layout.declares_iff_find?.1 declared, apart]

/-- The columns of a row are checked in order, up to the first that has something wrong with it. -/
theorem checkCells_eq_error_iff {row : Row} {error : StoreError} :
    row.toList.forM (fun entry => table.checkCell entry.1 entry.2) = .error error ↔
      ∃ column cell, row[column]? = some cell ∧ table.layout.Faults column cell error ∧
        ∀ (earlier : String) (other : Cell), row[earlier]? = some other → earlier < column →
          table.layout.Declares earlier other.kind := by
  rw [forM_eq_error_iff]
  constructor
  · rintro ⟨before, ⟨column, cell⟩, after, split, fine, stopped⟩
    have held : row[column]? = some cell := by
      rw [← Std.ExtTreeMap.mem_toList_iff_getElem?_eq_some, split]
      simp
    refine ⟨column, cell, held, table.checkCell_eq_error_iff.1 stopped, ?_⟩
    intro earlier other present less
    obtain ⟨⟨⟩, ok⟩ := fine _ ((Row.mem_before_iff split).2 ⟨present, less⟩)
    exact (table.checkCell_eq_ok_iff earlier other).1 ok
  · rintro ⟨column, cell, held, faults, first⟩
    obtain ⟨before, after, split⟩ :=
      List.append_of_mem (Std.ExtTreeMap.mem_toList_iff_getElem?_eq_some.2 held)
    refine ⟨before, (column, cell), after, split, ?_, table.checkCell_eq_error_iff.2 faults⟩
    rintro ⟨earlier, other⟩ mem
    rcases (Row.mem_before_iff split).1 mem with ⟨present, less⟩
    exact ⟨(), (table.checkCell_eq_ok_iff earlier other).2 (first earlier other present less)⟩

/-- The check of a row goes through the columns first, and then looks for the key. -/
theorem checkRow_eq_error_iff {row : Row} {error : StoreError} :
    table.checkRow row = .error error ↔ table.layout.Refuses row error := by
  rw [checkRow]
  change (row.toList.forM (fun entry => table.checkCell entry.1 entry.2) >>= _) = _ ↔ _
  constructor
  · intro failed
    cases checked : row.toList.forM (fun entry => table.checkCell entry.1 entry.2) with
    | error e =>
      obtain rfl : e = error := by simpa [checked, bind, Except.bind] using failed
      obtain ⟨column, cell, held, faults, first⟩ := table.checkCells_eq_error_iff.1 checked
      exact .column held faults first
    | ok done =>
      -- Only now, with every column in order, is the key looked for.
      have declared := (table.checkCells_eq_ok_iff row).1 checked
      cases text : row.text? table.layout.keyColumn with
      | some key => simp [checked, text, bind, Except.bind, pure, Except.pure] at failed
      | none =>
        obtain rfl : .missingKey table.layout.name table.layout.keyColumn = error := by
          simpa [checked, text, bind, Except.bind, throw, throwThe, MonadExceptOf.throw]
            using failed
        refine .keyless declared ?_
        intro key held
        rw [(row.text?_eq_some_iff _ key).2 held] at text
        cases text
  · intro refuses
    cases refuses with
    | @column column cell error held faults first =>
      rw [table.checkCells_eq_error_iff.2 ⟨column, cell, held, faults, first⟩]
      rfl
    | keyless declared absent =>
      have unkeyed : row.text? table.layout.keyColumn = none := by
        rw [Option.eq_none_iff_forall_ne_some]
        intro key text
        exact absent key ((row.text?_eq_some_iff _ key).1 text)
      rw [(table.checkCells_eq_ok_iff row).2 declared, unkeyed]
      rfl

end Table

namespace Keyspace

variable {keyspace : Keyspace} {name : String} {table : Table}

theorem result_upsert (held : keyspace.tables[name]? = some table) (row : Row) :
    ((upsert name row).run keyspace).result = (table.checkRow row).map fun _ => () := by
  rw [run_upsert_of_some keyspace row held]
  cases table.checkRow row <;> rfl

theorem result_replace (held : keyspace.tables[name]? = some table) (row : Row) :
    ((replace name row).run keyspace).result = (table.checkRow row).map fun _ => () := by
  rw [run_replace_of_some keyspace row held]
  cases table.checkRow row <;> rfl

theorem upsert_eq_ok_iff (held : keyspace.tables[name]? = some table) (row : Row) :
    ((upsert name row).run keyspace).result = .ok () ↔ ∃ key, table.layout.Admits key row := by
  rw [result_upsert held]
  constructor
  · intro ok
    cases checked : table.checkRow row with
    | error error => simp [checked, Except.map] at ok
    | ok key => exact ⟨key, (table.checkRow_eq_ok_iff row key).1 checked⟩
  · rintro ⟨key, admits⟩
    rw [(table.checkRow_eq_ok_iff row key).2 admits]
    rfl

theorem upsert_eq_error_iff (held : keyspace.tables[name]? = some table) (row : Row)
    (error : StoreError) :
    ((upsert name row).run keyspace).result = .error error ↔ table.layout.Refuses row error := by
  rw [result_upsert held, ← table.checkRow_eq_error_iff]
  cases table.checkRow row <;> simp [Except.map]

/-- In every keyspace that calls lead to, a table answers alike to both ways to write a row. It
takes the row if its layout admits the row under some key, and otherwise says why the layout refuses
it, whatever rows it has: wherever a table has this layout, the answer is the same. -/
theorem writes_are_judged_alike {settings : KeyspaceSettings} {start : Keyspace}
    (opened : ((openEmpty settings).run ()).result = .ok start) (calls : List StoreCall)
    {name : String} {table : Table}
    (held : (StoreCall.performAll calls start).2.tables[name]? = some table) (row : Row) :
    let keyspace := (StoreCall.performAll calls start).2
    let answer := ((upsert name row).run keyspace).result
    table.layout.name = name ∧
    ((replace name row).run keyspace).result = answer ∧
    (answer = .ok () ↔ ∃ key, table.layout.Admits key row) ∧
    (∀ error, answer = .error error ↔ table.layout.Refuses row error) ∧
    ∀ (elsewhere : Keyspace) (label : String) (other : Table),
      elsewhere.tables[label]? = some other → other.layout = table.layout →
        ((upsert label row).run elsewhere).result = answer ∧
        ((replace label row).run elsewhere).result = answer := by
  intro keyspace answer
  have judged : answer = (table.checkRow row).map fun _ => () := result_upsert held row
  refine ⟨?filed, ?alike, ?taken, ?refused, ?elsewhere⟩
  case filed =>
    exact ((sound_performAll opened calls) name table held).filed
  case alike =>
    rw [judged]
    exact result_replace held row
  case taken => exact upsert_eq_ok_iff held row
  case refused => exact upsert_eq_error_iff held row
  case elsewhere =>
    intro elsewhere label other present same
    rw [judged, ← Table.checkRow_congr same row]
    exact ⟨result_upsert present row, result_replace present row⟩

/-- A row without its key has a column of the kind that is declared second, and behind it one that
is not declared at all: it is refused for the kind. -/
theorem writes_are_judged_alike_second_declaration :
    let layout : TableLayout :=
      { name := "t", keyColumn := "id",
        columns := [⟨"id", .text⟩, ⟨"tags", .list⟩, ⟨"tags", .text⟩] }
    let calls : List StoreCall :=
      [.createTable layout, .upsert "t" ((∅ : Row).insert "id" (.text "a"))]
    let keyspace := (StoreCall.performAll calls { name := "kcc", tables := ∅ }).2
    let row : Row := ((∅ : Row).insert "zeta" (.text "z")).insert "tags" (.text "x")
    let refusal : StoreError := .kindMismatch "t" "tags" .list .text
    ((openEmpty {}).run ()).result = .ok { name := "kcc", tables := ∅ } ∧
      keyspace.tables["t"]?.map (·.layout) = some layout ∧
      ((upsert "t" row).run keyspace).result = .error refusal ∧
      ((replace "t" row).run keyspace).result = .error refusal := by
  intro layout calls keyspace row refusal
  have opened : ((openEmpty {}).run ()).result = .ok { name := "kcc", tables := ∅ } := rfl
  have there : keyspace.tables["t"]?.map (·.layout) = some layout := by decide
  obtain ⟨table, held, same⟩ := Option.map_eq_some_iff.1 there
  obtain ⟨-, alike, -, refused, -⟩ := writes_are_judged_alike opened calls held row
  have refuses : table.layout.Refuses row refusal := by
    have declares : layout.Declares "tags" .list := ⟨[⟨"id", .text⟩], [⟨"tags", .text⟩], by decide⟩
    rw [same]
    refine .column (by decide : row["tags"]? = some (.text "x")) (.mismatched declares nofun) ?_
    intro earlier other present less
    -- There is no column in front of the one that is blamed.
    have mem : earlier ∈ row := Std.ExtTreeMap.mem_iff_isSome_getElem?.2 (by simp [present])
    obtain rfl | rfl : "tags" = earlier ∨ "zeta" = earlier := by
      simpa [row, Std.ExtTreeMap.mem_insert] using mem
    · exact absurd less (by decide)
    · exact absurd less (by decide)
  exact ⟨opened, there, (refused refusal).2 refuses, alike.trans ((refused refusal).2 refuses)⟩

end Keyspace

end Cellwise

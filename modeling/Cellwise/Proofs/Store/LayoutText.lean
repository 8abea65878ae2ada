import Cellwise.Proofs.Json.FormRoundTrip
import Cellwise.Proofs.Store.History
import Cellwise.Proofs.Store.Refusal

/-!
# Layouts kept as JSON text

A layout is written as a record that lists its columns as records, with a short name for the kind of
each. Names may be any text, columns may be declared twice, and the key column need not be declared:
the text is read as the same layout again.

* `TableLayout.faithful_toJson` says so for layouts, from `CellKind.faithful_string` and
  `Column.faithful_toJson`.
* `TableLayout.RestoredAs` and `StoreCall.RestoredAs` put a layout that has been read from a text in
  the place of the one that was written.
* `Keyspace.layouts_survive_text` says that a keyspace does not notice.
-/

namespace Cellwise

open Json Json.Reader

/-! ## Kinds and columns -/

theorem CellKind.faithful_string (kind : CellKind) : Form.Faithful kind (.string kind.name) where
  encoded := rfl
  whole := rfl
  answers bound := by
    rw [within_of_le (Nat.zero_le bound)]
    cases kind <;> exact reads_variant rfl bound

namespace Column

theorem depth_toJson (column : Column) : column.toJson.depth = 1 := by
  simp [toJson, depth, depthMembers]

theorem faithful_toJson (column : Column) : Form.Faithful column column.toJson where
  encoded := rfl
  whole := rfl
  answers bound := by
    cases bound with
    | zero =>
      rw [within_of_lt (by simp [depth_toJson])]
      exact answers_record_zero
    | succ bound =>
      rw [within_of_le (by simp [depth_toJson])]
      have name : Reads (recordForm.member bound {}) (memberChars ("name", .string column.name))
          { name := column.name } :=
        answers_member rfl rfl
          (answers_ofOption ((Json.faithful_string column.name).reads (Nat.zero_le bound)))
      have kind : Reads (recordForm.member bound { name := column.name })
          (memberChars ("kind", .string column.kind.name))
          { name := column.name, kind := column.kind } :=
        answers_member rfl rfl
          (answers_ofOption (column.kind.faithful_string.reads (Nat.zero_le bound)))
      exact reads_record (.cons rfl name (.cons rfl kind (.nil _))) rfl

end Column

/-! ## Layouts -/

namespace TableLayout

theorem faithful_columns (columns : List Column) :
    Form.Faithful columns (.array (columns.map Column.toJson)) :=
  faithful_list fun column _ => column.faithful_toJson

/-- The columns are what nests most deeply in a layout. -/
theorem depth_toJson (layout : TableLayout) :
    layout.toJson.depth = (Json.array (layout.columns.map Column.toJson)).depth + 1 := by
  simp [toJson, depth, depthMembers]

theorem depth_toJson_le (layout : TableLayout) : layout.toJson.depth ≤ maxDepth := by
  have columns : (Json.array (layout.columns.map Column.toJson)).depth ≤ 2 := by
    rw [depth_array_le_succ, List.forall_mem_map]
    intro column _
    exact column.depth_toJson.le
  rw [depth_toJson, maxDepth]
  omega

theorem faithful_toJson (layout : TableLayout) : Form.Faithful layout layout.toJson where
  encoded := rfl
  whole := by
    rw [toJson, wholeNumbers_object]
    simpa [wholeNumbers] using (faithful_columns layout.columns).whole
  answers bound := by
    cases bound with
    | zero =>
      rw [within_of_lt (by simp [depth_toJson])]
      exact answers_record_zero
    | succ bound =>
      have reads (s : String) : Reads (Form.read bound) (Json.string s).chars s :=
        (Json.faithful_string s).reads (Nat.zero_le bound)
      have name : Reads (recordForm.member bound {}) (memberChars ("name", .string layout.name))
          { name := layout.name } :=
        answers_member rfl rfl (answers_ofOption (reads layout.name))
      have key : Reads (recordForm.member bound { name := layout.name })
          (memberChars ("key_column", .string layout.keyColumn))
          { name := layout.name, keyColumn := layout.keyColumn } :=
        answers_member rfl rfl (answers_ofOption (reads layout.keyColumn))
      -- Only the columns can nest too deeply for the reader, and they come last.
      have columns : Answers
          (recordForm.member bound { name := layout.name, keyColumn := layout.keyColumn })
          (memberChars ("columns", .array (layout.columns.map Column.toJson)))
          ((within bound (.array (layout.columns.map Column.toJson)) layout.columns).map
            fun columns =>
              { name := layout.name, keyColumn := layout.keyColumn, columns := some columns }) := by
        refine answers_member rfl rfl ?_
        exact answers_ofOption ((faithful_columns layout.columns).answers bound)
      have answers : Answers (recordForm.read (bound + 1)) layout.toJson.chars _ :=
        answers_record (.cons rfl name (.cons rfl key (.last rfl columns)))
      by_cases shallow : layout.toJson.depth ≤ bound + 1
      · rw [within_of_le shallow]
        rw [depth_toJson] at shallow
        rwa [within_of_le (by omega)] at answers
      · rw [within_of_lt (by omega)]
        rw [depth_toJson] at shallow
        rwa [within_of_lt (by omega)] at answers

theorem print_eq (layout : TableLayout) : Json.print layout = .ok layout.toJson.render :=
  layout.faithful_toJson.print_eq

theorem parse_render (layout : TableLayout) : Json.parse layout.toJson.render = .ok layout := by
  rw [layout.faithful_toJson.parse_render, within_of_le layout.depth_toJson_le]

/-- The second layout is read from the text of the first. -/
def RestoredAs (layout restored : TableLayout) : Prop :=
  ∃ text, Json.print layout = .ok text ∧ Json.parse text = .ok restored

theorem restoredAs_iff {layout restored : TableLayout} :
    layout.RestoredAs restored ↔ restored = layout := by
  constructor
  · rintro ⟨text, printed, parsed⟩
    obtain rfl : layout.toJson.render = text := by simpa [print_eq] using printed
    exact Except.ok.inj (parsed.symm.trans layout.parse_render)
  · rintro rfl
    exact ⟨_, restored.print_eq, restored.parse_render⟩

end TableLayout

/-! ## Keyspaces -/

/-- The second call is the first, perhaps with a layout that is read from the text of its own. -/
inductive StoreCall.RestoredAs : StoreCall → StoreCall → Prop where
  | createTable {layout restored : TableLayout} (read : layout.RestoredAs restored) :
      RestoredAs (.createTable layout) (.createTable restored)
  | same (call : StoreCall) : RestoredAs call call

theorem StoreCall.RestoredAs.eq {call restored : StoreCall} (read : call.RestoredAs restored) :
    call = restored := by
  cases read with
  | createTable read => rw [TableLayout.restoredAs_iff.1 read]
  | same => rfl

theorem StoreCall.eq_of_restored {calls restored : List StoreCall}
    (read : List.Forall₂ StoreCall.RestoredAs calls restored) : calls = restored := by
  induction read with
  | nil => rfl
  | cons first _ ih => rw [first.eq, ih]

namespace Keyspace

variable {name : String}

/-- What the history tells of the layout of a table is so. -/
theorem exists_table_of_layout? {start : Keyspace} (bare : start.tables = ∅)
    {calls : List StoreCall} {layout : TableLayout}
    (created : History.layout? name (StoreCall.history calls start) = some layout) :
    ∃ table, (StoreCall.performAll calls start).2.tables[name]? = some table ∧
      table.layout = layout := by
  have tells := History.tells_of_calls bare calls name
  exact Option.map_eq_some_iff.1 (tells.layout.trans created)

/-- Every layout is written as a text from which it is read again, in which nothing of it is lost
and which no other layout has. Where calls are repeated with layouts that were read from the texts
of their own, all of them get the answers that they got before. After that, every table takes the
rows that are admitted by the layout that it has in the original history, and refuses all other
rows for the reason that this layout gives. -/
theorem layouts_survive_text :
    (∀ layout : TableLayout, ∃ text, Json.print layout = .ok text ∧
      ∀ restored : TableLayout, Json.parse text = .ok restored ↔ restored = layout) ∧
    (∀ layout other : TableLayout, Json.print layout = Json.print other → layout = other) ∧
    ∀ (settings : KeyspaceSettings) (start : Keyspace),
      ((openEmpty settings).run ()).result = .ok start →
        ∀ calls restored : List StoreCall, List.Forall₂ StoreCall.RestoredAs calls restored →
          StoreCall.performAll restored start = StoreCall.performAll calls start ∧
          ∀ (name : String) (layout : TableLayout),
            History.layout? name (StoreCall.history calls start) = some layout →
              ∀ row : Row,
                let keyspace := (StoreCall.performAll restored start).2
                let answer := ((upsert name row).run keyspace).result
                (answer = .ok () ↔ ∃ key, layout.Admits key row) ∧
                (∀ error, answer = .error error ↔ layout.Refuses row error) ∧
                ((replace name row).run keyspace).result = answer := by
  refine ⟨?read, ?told, ?keyspaces⟩
  case read =>
    intro layout
    refine ⟨_, layout.print_eq, ?_⟩
    intro restored
    rw [layout.parse_render, Except.ok.injEq, eq_comm]
  case told =>
    intro layout other same
    have restored : layout.RestoredAs other := ⟨_, same.trans other.print_eq, other.parse_render⟩
    exact (TableLayout.restoredAs_iff.1 restored).symm
  case keyspaces =>
    intro settings start opened calls restored read
    have bare : start.tables = ∅ := by rw [eq_of_openEmpty opened]
    obtain rfl := StoreCall.eq_of_restored read
    refine ⟨rfl, ?_⟩
    intro name layout created row
    obtain ⟨table, held, rfl⟩ := exists_table_of_layout? bare created
    exact ⟨upsert_eq_ok_iff held row, upsert_eq_error_iff held row,
      (result_replace held row).trans (result_upsert held row).symm⟩

/-- The layout has quotes and a line end in its name and declares a column twice. In the keyspace
that is made of the layout that is read back, the first declaration of the column counts. -/
theorem layouts_survive_text_second_declaration :
    let layout : TableLayout :=
      { name := "a \"b\"\n", keyColumn := "id",
        columns := [⟨"tags", .list⟩, ⟨"id", .text⟩, ⟨"tags", .text⟩, ⟨"é\\", .set⟩] }
    let text := "\x7b\"name\":\"a \\\"b\\\"\\n\",\"key_column\":\"id\",\"columns\":[" ++
      "\x7b\"name\":\"tags\",\"kind\":\"list\"\x7d,\x7b\"name\":\"id\",\"kind\":\"text\"\x7d," ++
      "\x7b\"name\":\"tags\",\"kind\":\"text\"\x7d,\x7b\"name\":\"é\\\\\",\"kind\":\"set\"\x7d]\x7d"
    let start : Keyspace := { name := "kcc", tables := ∅ }
    let listed : Row := ((∅ : Row).insert "id" (.text "1")).insert "tags" (.list ["x"])
    let single : Row := ((∅ : Row).insert "id" (.text "1")).insert "tags" (.text "x")
    ((openEmpty {}).run ()).result = .ok start ∧
    Json.print layout = .ok text ∧
    ∃ restored : TableLayout, Json.parse text = .ok restored ∧
      let keyspace := (StoreCall.performAll [.createTable restored] start).2
      ((upsert layout.name listed).run keyspace).result = .ok () ∧
      ((replace layout.name single).run keyspace).result =
        .error (.kindMismatch layout.name "tags" .list .text) := by
  intro layout text start listed single
  have opened : ((openEmpty {}).run ()).result = .ok start := rfl
  have printed : Json.print layout = .ok text := by decide +kernel
  obtain ⟨read, -, keyspaces⟩ := layouts_survive_text
  obtain ⟨text', printed', parsed⟩ := read layout
  obtain rfl : text = text' := Except.ok.inj (printed.symm.trans printed')
  have back : Json.parse text = .ok layout := (parsed layout).2 rfl
  have restored : List.Forall₂ StoreCall.RestoredAs [.createTable layout] [.createTable layout] :=
    .cons (.createTable ⟨text, printed, back⟩) .nil
  obtain ⟨-, judged⟩ := keyspaces {} start opened _ _ restored
  have created : History.layout? layout.name
      (StoreCall.history [.createTable layout] start) = some layout := by decide
  let table : Table := { layout, rows := ∅ }
  have admits : layout.Admits "1" listed := (table.checkRow_eq_ok_iff listed "1").1 (by decide)
  have refuses : layout.Refuses single (.kindMismatch layout.name "tags" .list .text) :=
    table.checkRow_eq_error_iff.1 (by decide)
  refine ⟨opened, printed, layout, back, ?taken, ?refused⟩
  case taken => exact (judged layout.name layout created listed).1.2 ⟨"1", admits⟩
  case refused =>
    obtain ⟨-, reason, alike⟩ := judged layout.name layout created single
    exact alike.trans ((reason _).2 refuses)

end Keyspace

end Cellwise

import Mathlib.Data.Finset.Card
import Mathlib.Data.List.DropRight
import Cellwise.Proofs.Store.Soundness

/-!
# The contents of a keyspace, told from its history

A history lists the calls that a keyspace has seen, each with its answer. What the keyspace holds
can be told from the history alone:

* `History.layout?`: a table is there if it was created since it was last dropped, and the first of
  these creations gives it its layout;
* `History.period`: of the calls since then, the ones since the table was last truncated count;
* `History.writesTo`: a row is there if a successful write of that period carried its key;
* `History.cell?`: a column is decided by the last of these writes that mentions it or that
  replaces the whole row.

`Keyspace.contents_eq_history` says that this is what `select` and `count` answer.
-/

namespace Cellwise

/-- Calls with their answers, the oldest first. -/
abbrev History := List (StoreCall × Except StoreError StoreAnswer)

/-- What calls and their answers tell when they are performed one after another. -/
def StoreCall.history (calls : List StoreCall) (keyspace : Keyspace) : History :=
  calls.zip (StoreCall.performAll calls keyspace).1

/-- A row that was written, and whether it was put in the place of the old row. -/
structure RowWrite where
  row : Row
  whole : Bool

namespace RowWrite

/-- Does a write carry a key? -/
def carries (layout : TableLayout) (key : String) (write : RowWrite) : Bool :=
  write.row.text? layout.keyColumn = some key

/-- A write decides a column if it mentions it or replaces the whole row. -/
def decides (column : String) (write : RowWrite) : Bool := write.whole || write.row.contains column

/-- What a write makes of a column that it decides. -/
def leaves (column : String) (write : RowWrite) : Option Cell := write.row[column]?.bind Cell.kept

/-- What writes to one row make of a column: the last one that decides it counts. -/
def lastCell (column : String) (writes : List RowWrite) : Option Cell :=
  (writes.filter (decides column)).getLast?.bind (leaves column)

end RowWrite

namespace History

/-- The layout with which a call asks for a table to be created. -/
def creates (table : String) : StoreCall × Except StoreError StoreAnswer → Option TableLayout
  | (.createTable layout, _) => if layout.name = table then some layout else none
  | _ => none

/-- Does a call drop the table? -/
def drops (table : String) (past : StoreCall × Except StoreError StoreAnswer) : Bool :=
  past.1 = .dropTable table

/-- Does a call truncate the table? -/
def truncates (table : String) (past : StoreCall × Except StoreError StoreAnswer) : Bool :=
  past.1 = .truncate table

/-- The row that a call wrote into the table, if it succeeded. -/
def writes (table : String) : StoreCall × Except StoreError StoreAnswer → Option RowWrite
  | (.upsert name row, .ok _) => if name = table then some ⟨row, false⟩ else none
  | (.replace name row, .ok _) => if name = table then some ⟨row, true⟩ else none
  | _ => none

variable (table : String) (history : History)

/-- The calls since the table was last dropped. -/
def sinceDrop : History := history.rtakeWhile fun past => !drops table past

/-- The layout of the table: that of its first creation since it was last dropped. -/
def layout? : Option TableLayout := (sinceDrop table history).findSome? (creates table)

/-- The calls since the table was created. -/
def sinceCreation : History :=
  ((sinceDrop table history).dropWhile fun past => (creates table past).isNone).tail

/-- The calls since the table was created and since it was last truncated. -/
def period : History := (sinceCreation table history).rtakeWhile fun past => !truncates table past

/-- The rows that were written into the table within that period. -/
def written : List RowWrite := (period table history).filterMap (writes table)

/-- The writes that carried a key, within the period that counts. -/
def writesTo (key : String) : List RowWrite :=
  match layout? table history with
  | none => []
  | some layout => (written table history).filter (RowWrite.carries layout key)

/-- The keys that were carried within that period. -/
def keys : Finset String :=
  match layout? table history with
  | none => ∅
  | some layout =>
    ((written table history).filterMap fun write => write.row.text? layout.keyColumn).toFinset

/-- What the column of a row holds. -/
def cell? (key column : String) : Option Cell :=
  RowWrite.lastCell column (writesTo table history key)

/-! ## One more call -/

variable (past : StoreCall × Except StoreError StoreAnswer)

theorem sinceDrop_concat :
    sinceDrop table (history ++ [past]) =
      if drops table past then [] else sinceDrop table history ++ [past] := by
  rw [sinceDrop, List.rtakeWhile_concat]
  cases drops table past <;> rfl

theorem layout?_concat :
    layout? table (history ++ [past]) =
      if drops table past then none else (layout? table history).or (creates table past) := by
  rw [layout?, sinceDrop_concat]
  split
  next => rfl
  next => simp [layout?, List.findSome?_append]

theorem sinceCreation_concat :
    sinceCreation table (history ++ [past]) =
      if drops table past || (layout? table history).isNone then []
      else sinceCreation table history ++ [past] := by
  rw [sinceCreation, sinceDrop_concat]
  cases drops table past with
  | true => simp
  | false =>
    cases created : layout? table history with
    | none =>
      have before : ∀ earlier ∈ sinceDrop table history, (creates table earlier).isNone := by
        simpa using List.findSome?_eq_none_iff.1 created
      simp only [Bool.false_eq_true, if_false, List.dropWhile_append_of_pos before]
      cases first : creates table past <;> simp [first]
    | some layout =>
      -- The first creation stays the first.
      have some_left : (sinceDrop table history).dropWhile
          (fun past => (creates table past).isNone) ≠ [] := by
        intro none_left
        have none_created : layout? table history = none :=
          List.findSome?_eq_none_iff.2 (by simpa using List.dropWhile_eq_nil_iff.1 none_left)
        simp [none_created] at created
      simp [List.dropWhile_append, some_left, List.tail_append_of_ne_nil, sinceCreation]

theorem written_concat :
    written table (history ++ [past]) =
      if drops table past || truncates table past || (layout? table history).isNone then []
      else written table history ++ (writes table past).toList := by
  rw [written, period, sinceCreation_concat]
  cases drops table past with
  | true => simp
  | false =>
    cases layout? table history with
    | none => simp
    | some layout =>
      simp only [Option.isNone_some, Bool.or_self, Bool.false_eq_true, if_false,
        List.rtakeWhile_concat]
      cases truncates table past with
      | true => simp
      | false =>
        cases brought : writes table past <;> simp [written, period, brought]

end History

/-! ## Rows and the writes that made them -/

/-- The rows of a table are what writes since the rows were last removed have made of them. -/
structure Recorded (layout : TableLayout) (rows : Std.ExtTreeMap String Row)
    (written : List RowWrite) : Prop where
  row : ∀ key : String, (rows[key]?).isSome ↔ ∃ write ∈ written, write.carries layout key
  cell : ∀ key column : String,
    rows[key]?.bind (fun row => row[column]?) =
      RowWrite.lastCell column (written.filter (RowWrite.carries layout key))

namespace Recorded

variable {layout : TableLayout} {rows : Std.ExtTreeMap String Row} {written : List RowWrite}

theorem nil : Recorded layout ∅ [] where
  row key := by simp
  cell key column := by simp [RowWrite.lastCell]

theorem lastCell_concat (column : String) (writes : List RowWrite) (write : RowWrite) :
    RowWrite.lastCell column (writes ++ [write]) =
      if write.decides column then write.leaves column else RowWrite.lastCell column writes := by
  rw [RowWrite.lastCell, List.filter_append]
  cases decides : write.decides column <;> simp [decides, RowWrite.lastCell]

/-- One more write changes the row of its key, in the columns that it decides. -/
theorem concat (recorded : Recorded layout rows written) {write : RowWrite} {key : String}
    (carried : write.row.text? layout.keyColumn = some key) (row : Row)
    (columns : ∀ column : String, row[column]? =
      if write.decides column then write.leaves column else (rows.getD key ∅)[column]?) :
    Recorded layout (rows.insert key row) (written ++ [write]) where
  row other := by
    by_cases same : key = other
    · subst same
      simp [RowWrite.carries, carried]
    · simpa [RowWrite.carries, carried, same, Std.ExtTreeMap.getElem?_insert] using
        recorded.row other
  cell other column := by
    -- Only the history of the written key gets longer.
    by_cases same : key = other
    · subst same
      have old : (rows.getD key ∅)[column]? = rows[key]?.bind fun row => row[column]? := by
        rw [Std.ExtTreeMap.getD_eq_getD_getElem?]
        cases rows[key]? <;> simp
      have mine : (written ++ [write]).filter (RowWrite.carries layout key) =
          written.filter (RowWrite.carries layout key) ++ [write] := by
        simp [RowWrite.carries, carried]
      rw [mine, lastCell_concat, ← recorded.cell key column, ← old, ← columns column]
      simp
    · have others : (written ++ [write]).filter (RowWrite.carries layout other) =
          written.filter (RowWrite.carries layout other) := by
        simp [RowWrite.carries, carried, same]
      rw [others, ← recorded.cell other column, Std.ExtTreeMap.getElem?_insert]
      simp [same]

end Recorded

/-- A table, or that there is none, is what a history tells. -/
structure History.Tells (table : String) (history : History) (slot : Option Table) : Prop where
  layout : slot.map Table.layout = History.layout? table history
  rows : ∀ present, slot = some present →
    Recorded present.layout present.rows (History.written table history)

namespace History.Tells

variable {table : String} {history : History} {slot : Option Table}

/-- A call that leaves the table as it is and writes nothing changes nothing of what is told. -/
theorem unchanged (tells : Tells table history slot)
    {past : StoreCall × Except StoreError StoreAnswer} (drop : drops table past = false)
    (truncate : truncates table past = true → slot = none)
    (create : creates table past = none ∨ slot ≠ none) (write : writes table past = none) :
    Tells table (history ++ [past]) slot where
  layout := by
    rw [layout?_concat, drop, ← tells.layout]
    rcases create with none_created | there
    · simp [none_created]
    · cases slot with
      | none => exact absurd rfl there
      | some present => simp
  rows present there := by
    have kept := tells.rows present there
    have truncate : truncates table past = false := by
      rw [← Bool.not_eq_true]
      intro truncated
      simp [truncate truncated] at there
    rw [written_concat, drop, truncate, ← tells.layout, there, write]
    simpa using kept

/-- A table that is told of is there, with its layout. -/
theorem layout?_eq_some (tells : Tells table history slot) {present : Table}
    (there : slot = some present) : layout? table history = some present.layout := by
  rw [← tells.layout, there]
  rfl

/-- A write to a table that is there is told of behind the writes before it. -/
theorem write (tells : Tells table history slot) {present : Table} (there : slot = some present)
    {past : StoreCall × Except StoreError StoreAnswer} {brought : RowWrite} {key : String}
    (writes : writes table past = some brought) (row : Row)
    (carried : brought.row.text? present.layout.keyColumn = some key)
    (columns : ∀ column : String, row[column]? =
      if brought.decides column then brought.leaves column
      else (present.rows.getD key ∅)[column]?) :
    Tells table (history ++ [past])
      (some { present with rows := present.rows.insert key row }) := by
  have only_writes : drops table past = false ∧ truncates table past = false ∧
      creates table past = none := by
    rcases past with ⟨call, answer⟩
    cases call <;> cases answer <;> simp_all [History.writes, drops, truncates, creates]
  rcases only_writes with ⟨drop, truncate, create⟩
  have layout := tells.layout?_eq_some there
  constructor
  · rw [layout?_concat, drop, create, layout]
    rfl
  · rintro _ ⟨⟩
    rw [written_concat, drop, truncate, layout, writes]
    exact (tells.rows present there).concat carried row columns

/-- What a history tells when there is no table stays true when a call on it is performed. -/
theorem onAbsent (tells : Tells table history none) (call : StoreCall)
    (named : call.table = table) :
    Tells table (history ++ [(call, call.onAbsent.1)]) call.onAbsent.2 := by
  have absent : layout? table history = none := tells.layout.symm
  cases call with
  | createTable layout =>
    constructor
    · rw [layout?_concat, absent]
      simp_all [StoreCall.onAbsent, drops, creates, StoreCall.table]
    · rintro _ ⟨⟩
      rw [written_concat, absent]
      simpa using Recorded.nil
  | dropTable name =>
    constructor
    · simp_all [layout?_concat, StoreCall.onAbsent, drops, StoreCall.table]
    · rintro _ ⟨⟩
  | _ =>
    refine tells.unchanged ?_ ?_ (.inl ?_) ?_ <;>
      simp [drops, creates, writes, StoreCall.onAbsent]

/-- What a history tells of a table that is there stays true when a call on it is performed. -/
theorem onPresent {present : Table} (tells : Tells table history (some present)) (call : StoreCall)
    (named : call.table = table) :
    Tells table (history ++ [(call, (call.onPresent present).1)]) (call.onPresent present).2 := by
  have there := tells.layout?_eq_some rfl
  cases call with
  | createTable layout =>
    refine tells.unchanged ?_ ?_ (.inr ?_) ?_ <;> simp [drops, truncates, writes]
  | dropTable name =>
    constructor
    · simp_all [layout?_concat, StoreCall.onPresent, drops, StoreCall.table]
    · rintro _ ⟨⟩
  | truncate name =>
    constructor
    · rw [layout?_concat, there]
      simp [StoreCall.onPresent, drops]
    · rintro _ ⟨⟩
      have truncated : truncates table (.truncate name, .ok .done) = true := by
        simpa [truncates, StoreCall.table] using named
      simpa [written_concat, StoreCall.onPresent, truncated] using Recorded.nil
  | upsert name row =>
    cases checked : present.checkRow row with
    | error e =>
      simp only [StoreCall.onPresent, checked]
      refine tells.unchanged ?_ ?_ (.inl ?_) ?_ <;> simp [drops, truncates, creates, writes]
    | ok key =>
      have keyed := ((present.checkRow_eq_ok_iff row key).1 checked).keyed
      simp only [StoreCall.onPresent, checked]
      have told : writes table (.upsert name row, .ok .done) = some ⟨row, false⟩ := by
        simpa [writes, StoreCall.table] using named
      refine tells.write rfl told _ ?_ ?_
      · exact (row.text?_eq_some_iff _ _).2 keyed
      · intro column
        rw [Row.getElem?_mergeAll, RowWrite.decides, RowWrite.leaves]
        cases written : row[column]? <;>
          simp [Std.ExtTreeMap.contains_eq_isSome_getElem?, written,
            -Std.ExtTreeMap.isSome_getElem?_eq_contains]
  | replace name row =>
    cases checked : present.checkRow row with
    | error e =>
      simp only [StoreCall.onPresent, checked]
      refine tells.unchanged ?_ ?_ (.inl ?_) ?_ <;> simp [drops, truncates, creates, writes]
    | ok key =>
      have keyed := ((present.checkRow_eq_ok_iff row key).1 checked).keyed
      simp only [StoreCall.onPresent, checked]
      have told : writes table (.replace name row, .ok .done) = some ⟨row, true⟩ := by
        simpa [writes, StoreCall.table] using named
      refine tells.write rfl told _ ?_ ?_
      · exact (row.text?_eq_some_iff _ _).2 keyed
      · intro column
        simp [Row.getElem?_image, RowWrite.decides, RowWrite.leaves]
  | select name key columns =>
    have same : ((StoreCall.select name key columns).onPresent present).2 = some present := by
      cases columns with
      | none => rfl
      | some columns =>
        cases checked : present.checkColumns columns <;> simp [StoreCall.onPresent, checked]
    rw [same]
    refine tells.unchanged ?_ ?_ (.inl ?_) ?_ <;> simp [drops, truncates, creates, writes]
  | count name =>
    refine tells.unchanged ?_ ?_ (.inl ?_) ?_ <;> simp [drops, truncates, creates, writes]

/-- What a history tells of a table stays true when one more call is performed. -/
theorem perform {keyspace : Keyspace} (tells : Tells table history keyspace.tables[table]?)
    (call : StoreCall) :
    Tells table (history ++ [(call, (call.perform.run keyspace).result)])
      (call.perform.run keyspace).state.tables[table]? := by
  rw [call.getElem?_tables_perform, (call.perform_onTable keyspace).1]
  -- A call on another table leaves this one alone and is no part of what is told of it.
  split
  next named =>
    rw [named]
    cases held : keyspace.tables[table]? with
    | none => exact onAbsent (held ▸ tells) call named
    | some present => exact onPresent (held ▸ tells) call named
  next other =>
    have silent (answer : Except StoreError StoreAnswer) : drops table (call, answer) = false ∧
        truncates table (call, answer) = false ∧ creates table (call, answer) = none ∧
        writes table (call, answer) = none := by
      cases call <;> cases answer <;> simp_all [StoreCall.table, drops, truncates, creates, writes]
    rcases silent (call.onTable keyspace.tables[call.table]?).1 with ⟨drop, truncate, create, write⟩
    exact tells.unchanged drop (by simp [truncate]) (.inl create) write

end History.Tells

/-! ## The whole history -/

namespace StoreCall

theorem performAll_concat (calls : List StoreCall) (call : StoreCall) (keyspace : Keyspace) :
    performAll (calls ++ [call]) keyspace =
      ((performAll calls keyspace).1 ++ [(call.perform.run (performAll calls keyspace).2).result],
        (call.perform.run (performAll calls keyspace).2).state) := by
  induction calls generalizing keyspace with
  | nil => rfl
  | cons first calls ih => simp [performAll, ih]

theorem length_performAll (calls : List StoreCall) (keyspace : Keyspace) :
    (performAll calls keyspace).1.length = calls.length := by
  induction calls generalizing keyspace with
  | nil => rfl
  | cons first calls ih => simp [performAll, ih]

theorem history_concat (calls : List StoreCall) (call : StoreCall) (keyspace : Keyspace) :
    history (calls ++ [call]) keyspace = history calls keyspace ++
      [(call, (call.perform.run (performAll calls keyspace).2).result)] := by
  rw [history, performAll_concat, List.zip_append (length_performAll calls keyspace).symm]
  rfl

end StoreCall

namespace History

/-- What the history of a keyspace that began without tables tells is so. -/
theorem tells_of_calls {start : Keyspace} (bare : start.tables = ∅) (calls : List StoreCall)
    (table : String) :
    Tells table (StoreCall.history calls start)
      (StoreCall.performAll calls start).2.tables[table]? := by
  -- A history grows at its end, and so the induction takes the last call off.
  induction calls using List.reverseRecOn with
  | nil =>
    constructor
    · simp [StoreCall.performAll, StoreCall.history, bare, layout?, sinceDrop]
    · simp [StoreCall.performAll, bare]
  | append_singleton calls call ih =>
    rw [StoreCall.history_concat, StoreCall.performAll_concat]
    exact ih.perform call

variable {table : String} {history : History}

/-- A table has a layout exactly if some creation of it was not followed by a drop. -/
theorem layout?_isSome_iff :
    (layout? table history).isSome ↔
      ∃ before past after, history = before ++ past :: after ∧ (creates table past).isSome ∧
        ∀ later ∈ after, drops table later = false := by
  -- The last call either drops the table, or creates it, or leaves what was there before.
  induction history using List.reverseRecOn with
  | nil => simp [layout?, sinceDrop]
  | append_singleton history past ih =>
    rw [layout?_concat]
    constructor
    · intro created
      cases drop : drops table past with
      | true => simp [drop] at created
      | false =>
        have either : (layout? table history).isSome ∨ (creates table past).isSome := by
          simpa [drop] using created
        rcases either with earlier | now
        · rcases ih.1 earlier with ⟨before, first, after, rfl, created, later⟩
          refine ⟨before, first, after ++ [past], by simp, created, ?_⟩
          simpa [or_imp, forall_and, drop] using later
        · exact ⟨history, past, [], rfl, now, by simp⟩
    · rintro ⟨before, first, after, split, created, later⟩
      -- Either the last call is the creation itself, or it comes behind it and is no drop.
      rcases List.eq_nil_or_concat after with rfl | ⟨after, last, rfl⟩
      · obtain ⟨rfl, rfl⟩ : history = before ∧ past = first := by simpa using split
        have drop : drops table past = false := by
          rcases past with ⟨call, answer⟩
          cases call <;> simp_all [creates, drops]
        simp [drop, created]
      · obtain ⟨rfl, rfl⟩ : history = before ++ first :: after ∧ past = last := by
          have split : history ++ [past] = (before ++ first :: after) ++ [last] := by
            simpa using split
          simpa using List.append_inj' split rfl
        have earlier := ih.2 ⟨before, first, after, rfl, created, fun call mem =>
          later call (by simp [mem])⟩
        have drop := later past (by simp)
        simp [drop, earlier]

/-- The number of rows is the number of keys that were carried. -/
theorem Tells.size_rows {present : Table} (tells : Tells table history (some present)) :
    present.rows.size = (keys table history).card := by
  have there := tells.layout?_eq_some rfl
  have recorded := tells.rows present rfl
  have distinct : present.rows.keys.Nodup :=
    Std.ExtTreeMap.distinct_keys.imp fun apart same => apart (by simp [same])
  -- Both sides count keys; the rows list each of theirs once.
  have same : keys table history = present.rows.keys.toFinset := by
    ext key
    have row := recorded.row key
    simp only [keys, there, List.mem_toFinset, List.mem_filterMap]
    rw [Std.ExtTreeMap.mem_keys, Std.ExtTreeMap.mem_iff_isSome_getElem?, row]
    simp [RowWrite.carries]
  rw [same, List.toFinset_card_of_nodup distinct, Std.ExtTreeMap.length_keys]

end History

namespace Keyspace

/-- After any calls, a table is there if it was created since it was last dropped, with the layout
of the first creation since then, which later ones do not change; a row is there if a successful
write carried its key since the table was created and last truncated; its columns hold what the
last writes left that decide them; and the rows are as many as the keys. -/
theorem contents_eq_history {settings : KeyspaceSettings} {start : Keyspace}
    (opened : ((openEmpty settings).run ()).result = .ok start) (calls : List StoreCall)
    (table : String) :
    let history := StoreCall.history calls start
    let keyspace := (StoreCall.performAll calls start).2
    (table ∈ keyspace.tables ↔
      ∃ before past after, history = before ++ past :: after ∧
        (History.creates table past).isSome ∧
        ∀ later ∈ after, History.drops table later = false) ∧
    keyspace.tables[table]?.map Table.layout = History.layout? table history ∧
    (∀ layout : TableLayout, layout.name = table → table ∈ keyspace.tables →
      ((createTable layout).run keyspace).result = .ok false ∧
        ((createTable layout).run keyspace).state = keyspace) ∧
    (table ∈ keyspace.tables → ∀ key : String, ∃ row : Option Row,
      (select table key none).run keyspace = ⟨.ok row, keyspace, []⟩ ∧
      (row.isSome ↔ History.writesTo table history key ≠ []) ∧
      ∀ column : String,
        row.bind (fun row => row[column]?) = History.cell? table history key column) ∧
    (table ∈ keyspace.tables →
      (count table).run keyspace = ⟨.ok (History.keys table history).card, keyspace, []⟩) := by
  intro history keyspace
  have bare : start.tables = ∅ := by rw [eq_of_openEmpty opened]
  have tells : History.Tells table history keyspace.tables[table]? :=
    History.tells_of_calls bare calls table
  have there : table ∈ keyspace.tables ↔ (keyspace.tables[table]?).isSome :=
    Std.ExtTreeMap.mem_iff_isSome_getElem?
  -- Everything is read off what the history tells of the one table.
  refine ⟨?_, tells.layout, ?_, ?_, ?_⟩
  · rw [← History.layout?_isSome_iff, ← tells.layout, Option.isSome_map]
    exact there
  · rintro layout rfl mem
    rcases Option.isSome_iff_exists.1 (there.1 mem) with ⟨present, held⟩
    simpa [held] using keyspace.run_createTable layout
  · intro mem key
    rcases Option.isSome_iff_exists.1 (there.1 mem) with ⟨present, held⟩
    rw [held] at tells
    have recorded := tells.rows present rfl
    have writes : History.writesTo table history key =
        (History.written table history).filter (RowWrite.carries present.layout key) := by
      simp [History.writesTo, tells.layout?_eq_some rfl]
    refine ⟨present.rows[key]?, keyspace.run_select_of_some key none held, ?_, fun column => ?_⟩
    · rw [recorded.row key, writes]
      simp
    · rw [recorded.cell key column, History.cell?, writes]
  · intro mem
    rcases Option.isSome_iff_exists.1 (there.1 mem) with ⟨present, held⟩
    rw [held] at tells
    rw [keyspace.run_count_of_some held, tells.size_rows]

/-- A list that is written, left out and then written empty is gone, and its row is still there. -/
theorem contents_eq_history_emptied_list :
    let layout : TableLayout :=
      { name := "t", keyColumn := "id", columns := [⟨"id", .text⟩, ⟨"tags", .list⟩] }
    let row : Row := (∅ : Row).insert "id" (.text "a")
    let calls : List StoreCall :=
      [.createTable layout, .upsert "t" (row.insert "tags" (.list ["x"])), .upsert "t" row,
        .upsert "t" (row.insert "tags" (.list []))]
    let keyspace := (StoreCall.performAll calls { name := "kcc", tables := ∅ }).2
    ((openEmpty {}).run ()).result = .ok { name := "kcc", tables := ∅ } ∧
      "t" ∈ keyspace.tables ∧
      (∃ stored : Option Row, (select "t" "a" none).run keyspace = ⟨.ok stored, keyspace, []⟩ ∧
        stored.isSome ∧ stored.bind (fun row => row["tags"]?) = none) ∧
      (count "t").run keyspace = ⟨.ok 1, keyspace, []⟩ := by
  intro layout row calls keyspace
  have opened : ((openEmpty {}).run ()).result = .ok { name := "kcc", tables := ∅ } := rfl
  have there : "t" ∈ keyspace.tables := by decide
  let history := StoreCall.history calls { name := "kcc", tables := ∅ }
  have written : History.writesTo "t" history "a" ≠ [] := by decide
  have emptied : History.cell? "t" history "a" "tags" = none := by decide
  have one : (History.keys "t" history).card = 1 := by decide
  rcases contents_eq_history opened calls "t" with ⟨-, -, -, rows, size⟩
  rcases rows there "a" with ⟨stored, selected, isSome, cells⟩
  exact ⟨opened, there, ⟨stored, selected, isSome.2 written, (cells "tags").trans emptied⟩,
    one ▸ size there⟩

end Keyspace

end Cellwise

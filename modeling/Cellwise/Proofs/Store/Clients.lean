import Cellwise.Proofs.Store.Acceptance
import Cellwise.Proofs.Store.Locality

/-!
# Clients that do not disturb each other

Two clients send their calls to one keyspace, which gets them in some order that keeps the order of
either client. The clients are independent if on every table that both of them use they only
upsert, replace and select rows, and never under one key. Then the order makes no difference, to
the answers of either client or to what is left in the end.

* `StoreCall.Apart` says that two calls are independent, and `StoreCall.Apart.commute` that it
  makes no difference then which of them comes first.
* `Schedule.eq_in_turn` takes every order to the one in which the left client goes first.
-/

namespace Cellwise

/-! ## Which rows a call is about -/

namespace Table

/-- Tables of one layout that hold the same rows under some keys. -/
structure AgreeOn (keys : String → Prop) (a b : Table) : Prop where
  layout : a.layout = b.layout
  rows : ∀ key, keys key → a.rows[key]? = b.rows[key]?

variable {a b : Table}

theorem ext_rows (layout : a.layout = b.layout)
    (rows : ∀ key : String, a.rows[key]? = b.rows[key]?) : a = b := by
  rcases a with ⟨aLayout, aRows⟩
  rcases b with ⟨bLayout, bRows⟩
  have same : aRows = bRows := Std.ExtTreeMap.ext_getElem? fun {key} => rows key
  subst same
  simpa using layout

/-- The table with a record made out of the old one under the key of a row, if the row is taken. -/
def filing (table : Table) (row : Row) (record : Row → Row) : Table :=
  match table.checkRow row with
  | .error _ => table
  | .ok key =>
    { table with rows := table.rows.insert key (record (table.rows.getD key ∅)) }

/-- Under keys that the row does not carry, nothing changes. -/
theorem filing_agree (table : Table) (row : Row) (record : Row → Row) :
    (table.filing row record).AgreeOn (fun key => ¬table.layout.Admits key row) table := by
  rw [filing]
  cases checked : table.checkRow row with
  | error e => exact ⟨rfl, fun _ _ => rfl⟩
  | ok key =>
    refine ⟨rfl, ?_⟩
    intro other refused
    have admits : table.layout.Admits key row := (table.checkRow_eq_ok_iff row key).1 checked
    have apart : key ≠ other := by
      rintro rfl
      exact refused admits
    simp [Std.ExtTreeMap.getElem?_insert, apart]

/-- What is filed depends on the record of the key that the row carries, and on no other. -/
theorem filing_congr {row : Row} (agree : a.AgreeOn (fun key => a.layout.Admits key row) b)
    (record : Row → Row) :
    (a.filing row record).AgreeOn (fun key => a.layout.Admits key row) (b.filing row record) := by
  rw [filing, filing, ← checkRow_congr agree.layout row]
  cases checked : a.checkRow row with
  | error e => exact agree
  | ok key =>
    refine ⟨agree.layout, ?_⟩
    intro other admits
    have own : a.layout.Admits key row := (a.checkRow_eq_ok_iff row key).1 checked
    simp [Std.ExtTreeMap.getElem?_insert, Std.ExtTreeMap.getD_eq_getD_getElem?,
      agree.rows other admits, agree.rows key own]

end Table

namespace StoreCall

/-- Is a call about the row of one key? -/
def isAboutRow : StoreCall → Bool
  | upsert .. | replace .. | select .. => true
  | createTable _ | dropTable _ | truncate _ | count _ => false

/-- The key that a call writes or selects in a table of some layout. A row that the layout does not
admit is not written. -/
def Touches (layout : TableLayout) (key : String) : StoreCall → Prop
  | upsert _ row | replace _ row => layout.Admits key row
  | select _ other _ => other = key
  | createTable _ | dropTable _ | truncate _ | count _ => False

/-- What a call on one row makes of the table that it is about. -/
def after (present : Table) : StoreCall → Table
  | upsert _ row => present.filing row (·.mergeAll row)
  | replace _ row => present.filing row fun _ => row.image
  | createTable _ | dropTable _ | truncate _ | select .. | count _ => present

variable {call : StoreCall} {a b : Table}

theorem onPresent_eq_after (about : call.isAboutRow = true) (present : Table) :
    (call.onPresent present).2 = some (call.after present) := by
  cases call with
  | upsert name row | replace name row =>
    rw [onPresent, after, Table.filing]
    cases present.checkRow row <;> rfl
  | select name key columns =>
    cases columns with
    | none => rfl
    | some columns =>
      rw [onPresent]
      cases present.checkColumns columns <;> rfl
  | _ => cases about

/-- What a call is not about stays as it is. -/
theorem after_agree (call : StoreCall) (present : Table) :
    (call.after present).AgreeOn (fun key => ¬call.Touches present.layout key) present := by
  cases call with
  | upsert name row => exact present.filing_agree row (·.mergeAll row)
  | replace name row => exact present.filing_agree row fun _ => row.image
  | _ => exact ⟨rfl, fun _ _ => rfl⟩

theorem after_congr (agree : a.AgreeOn (call.Touches a.layout) b) :
    (call.after a).AgreeOn (call.Touches a.layout) (call.after b) := by
  cases call with
  | upsert name row => exact Table.filing_congr agree (·.mergeAll row)
  | replace name row => exact Table.filing_congr agree fun _ => row.image
  | _ => exact agree

/-- A call on one row answers alike to tables that agree on what it is about. -/
theorem onPresent_congr (about : call.isAboutRow = true)
    (agree : a.AgreeOn (call.Touches a.layout) b) :
    (call.onPresent a).1 = (call.onPresent b).1 := by
  cases call with
  | upsert name row | replace name row =>
    rw [onPresent, onPresent, Table.checkRow_congr agree.layout]
    cases b.checkRow row <;> rfl
  | select name key columns =>
    have same : a.rows[key]? = b.rows[key]? := agree.rows key rfl
    cases columns with
    | none => simp [onPresent, same]
    | some columns =>
      rw [onPresent, onPresent, Table.checkColumns_congr agree.layout, same]
      cases b.checkColumns columns <;> rfl
  | _ => cases about

/-! ## Calls that commute -/

/-- Two calls on one table are independent if either is about a row, and not about the same. -/
def Apart (keyspace : Keyspace) (a b : StoreCall) : Prop :=
  a.table = b.table → a.isAboutRow = true ∧ b.isAboutRow = true ∧
    ∀ present : Table, keyspace.tables[a.table]? = some present →
      ∀ key, ¬(a.Touches present.layout key ∧ b.Touches present.layout key)

variable {keyspace : Keyspace} {c d : StoreCall}

theorem Apart.symm (apart : c.Apart keyspace d) : d.Apart keyspace c := by
  intro same
  rcases apart same.symm with ⟨about_c, about_d, disjoint⟩
  refine ⟨about_d, about_c, ?_⟩
  intro present held key both
  rw [same] at held
  exact disjoint present held key both.symm

section OneTable

variable {present : Table}
  (disjoint : ∀ key, ¬(c.Touches present.layout key ∧ d.Touches present.layout key))

include disjoint

/-- The one call leaves alone what the other is about. -/
theorem agree_after :
    (c.after present).AgreeOn (d.Touches (c.after present).layout) present := by
  have frame := c.after_agree present
  refine ⟨frame.layout, ?_⟩
  intro key touched
  apply frame.rows key
  intro also
  rw [frame.layout] at touched
  exact disjoint key ⟨also, touched⟩

theorem after_after : d.after (c.after present) = c.after (d.after present) := by
  have disjoint' : ∀ key, ¬(d.Touches present.layout key ∧ c.Touches present.layout key) := by
    intro key both
    exact disjoint key both.symm
  have frame_c := c.after_agree present
  have frame_d := d.after_agree present
  have frame_dc := d.after_agree (c.after present)
  have frame_cd := c.after_agree (d.after present)
  have own_d := after_congr (agree_after disjoint)
  have own_c := after_congr (agree_after disjoint')
  rw [frame_c.layout] at frame_dc own_d
  rw [frame_d.layout] at frame_cd own_c
  refine Table.ext_rows (own_d.layout.trans ?_) ?_
  · rw [frame_d.layout, own_c.layout, frame_c.layout]
  intro key
  -- A row is changed by the one call, by the other, or by neither.
  by_cases touched_c : c.Touches present.layout key
  · have untouched_d : ¬d.Touches present.layout key := fun also => disjoint key ⟨touched_c, also⟩
    rw [frame_dc.rows key untouched_d, own_c.rows key touched_c]
  · rw [frame_cd.rows key touched_c]
    by_cases touched_d : d.Touches present.layout key
    · exact own_d.rows key touched_d
    · rw [frame_dc.rows key touched_d, frame_c.rows key touched_c, frame_d.rows key touched_d]

end OneTable

theorem onAbsent_of_isAboutRow (about : c.isAboutRow = true) : (c.onAbsent).2 = none := by
  cases c with
  | upsert _ _ | replace _ _ | select _ _ _ => rfl
  | _ => cases about

theorem Apart.onTable_onTable (apart : c.Apart keyspace d) (same : c.table = d.table) :
    let slot := keyspace.tables[c.table]?
    (d.onTable (c.onTable slot).2).1 = (d.onTable slot).1 ∧
      (d.onTable (c.onTable slot).2).2 = (c.onTable (d.onTable slot).2).2 := by
  intro slot
  rcases apart same with ⟨about_c, about_d, disjoint⟩
  cases held : slot with
  | none =>
    -- Where there is no table, calls on a row make none.
    have none_c : (c.onTable none).2 = none := onAbsent_of_isAboutRow about_c
    have none_d : (d.onTable none).2 = none := onAbsent_of_isAboutRow about_d
    rw [none_c, none_d]
    exact ⟨rfl, none_c.symm⟩
  | some present =>
    have left_c : (c.onTable (some present)).2 = some (c.after present) :=
      onPresent_eq_after about_c present
    have left_d : (d.onTable (some present)).2 = some (d.after present) :=
      onPresent_eq_after about_d present
    have disjoint := disjoint present held
    rw [left_c, left_d]
    refine ⟨onPresent_congr about_d (agree_after disjoint), ?_⟩
    have left_dc : (d.onTable (some (c.after present))).2 = some (d.after (c.after present)) :=
      onPresent_eq_after about_d _
    have left_cd : (c.onTable (some (d.after present))).2 = some (c.after (d.after present)) :=
      onPresent_eq_after about_c _
    rw [left_dc, left_cd, after_after disjoint]

theorem name_perform (call : StoreCall) (keyspace : Keyspace) :
    (call.perform.run keyspace).state.name = keyspace.name := by
  rw [(call.perform_onTable keyspace).2, Keyspace.name_withTable]

/-- A call answers in the same way before and after an independent one. -/
theorem Apart.result_eq (apart : c.Apart keyspace d) :
    (d.perform.run (c.perform.run keyspace).state).result = (d.perform.run keyspace).result := by
  rw [(d.perform_onTable _).1, (d.perform_onTable keyspace).1, c.getElem?_tables_perform]
  split
  next same =>
    rw [← same]
    exact (apart.onTable_onTable same).1
  next => rfl

/-- Independent calls leave the same keyspace in either order. -/
theorem Apart.commute (apart : c.Apart keyspace d) :
    (d.perform.run (c.perform.run keyspace).state).state =
      (c.perform.run (d.perform.run keyspace).state).state := by
  refine Keyspace.ext_tables (by simp only [name_perform]) ?_
  intro table
  rw [d.getElem?_tables_perform, c.getElem?_tables_perform, c.getElem?_tables_perform,
    d.getElem?_tables_perform]
  -- Only a table that both calls name sees the two of them.
  by_cases on_c : c.table = table
  · by_cases on_d : d.table = table
    · subst on_c
      simpa [on_d] using (apart.onTable_onTable on_d.symm).2
    · simp [on_c, on_d]
  · simp [on_c]

/-- Calls on a row leave the layouts of tables as they are. -/
theorem layout_perform {table : String} (about : c.table = table → c.isAboutRow = true)
    (keyspace : Keyspace) :
    (c.perform.run keyspace).state.tables[table]?.map Table.layout =
      keyspace.tables[table]?.map Table.layout := by
  rw [c.getElem?_tables_perform]
  split
  next same =>
    have about := about same
    cases held : keyspace.tables[table]? with
    | none =>
      have none_left : (c.onTable none).2 = none := onAbsent_of_isAboutRow about
      rw [none_left]
    | some present =>
      have left : (c.onTable (some present)).2 = some (c.after present) :=
        onPresent_eq_after about present
      rw [left, Option.map_some, (c.after_agree present).layout, Option.map_some]
  next => rfl

/-- Independence outlives every call that keeps the layouts of the tables that count. -/
theorem Apart.perform {call : StoreCall} (apart : c.Apart keyspace d)
    (about : c.table = d.table → call.table = c.table → call.isAboutRow = true) :
    c.Apart (call.perform.run keyspace).state d := by
  intro same
  rcases apart same with ⟨about_c, about_d, disjoint⟩
  refine ⟨about_c, about_d, ?_⟩
  intro later held
  have layouts := layout_perform (about same) keyspace
  rw [held] at layouts
  rcases Option.map_eq_some_iff.1 layouts.symm with ⟨present, before, layout⟩
  rw [← layout]
  exact disjoint present before

end StoreCall

/-! ## Schedules -/

/-- One of two clients. -/
inductive Client where
  | left
  | right
  deriving DecidableEq, Repr

/-- The calls of two clients, in the order in which the keyspace gets them. -/
abbrev Schedule := List (Client × StoreCall)

namespace Schedule

/-- The calls of one client, in their order. -/
def callsOf (client : Client) (schedule : Schedule) : List StoreCall :=
  (schedule.filter fun turn => turn.1 = client).map (·.2)

/-- The answers that one client gets, in their order. -/
def answersTo (client : Client) (schedule : Schedule) (keyspace : Keyspace) :
    List (Except StoreError StoreAnswer) :=
  let answers := (StoreCall.performAll (schedule.map (·.2)) keyspace).1
  ((schedule.zip answers).filter fun turn => turn.1.1 = client).map (·.2)

/-- The keyspace that is left in the end. -/
def last (schedule : Schedule) (keyspace : Keyspace) : Keyspace :=
  (StoreCall.performAll (schedule.map (·.2)) keyspace).2

/-- A schedule interleaves the calls of two clients. -/
structure Interleaves (schedule : Schedule) (left right : List StoreCall) : Prop where
  left : schedule.callsOf .left = left
  right : schedule.callsOf .right = right

end Schedule

/-- On every table that two clients both use, they only write and select rows, and not under one
key. -/
def Keyspace.Separates (keyspace : Keyspace) (left right : List StoreCall) : Prop :=
  ∀ a ∈ left, ∀ b ∈ right, a.Apart keyspace b

namespace Keyspace.Separates

variable {keyspace : Keyspace} {call : StoreCall} {left right : List StoreCall}

theorem after_left (separates : keyspace.Separates (call :: left) right) :
    Separates (call.perform.run keyspace).state left right := by
  intro a mem_a b mem_b
  refine (separates a (List.mem_cons_of_mem call mem_a) b mem_b).perform ?_
  intro same own
  exact (separates call List.mem_cons_self b mem_b (own.trans same)).1

theorem after_right (separates : keyspace.Separates left (call :: right)) :
    Separates (call.perform.run keyspace).state left right := by
  intro a mem_a b mem_b
  refine (separates a mem_a b (List.mem_cons_of_mem call mem_b)).perform ?_
  intro _ own
  exact (separates a mem_a call List.mem_cons_self own.symm).2.1

/-- A call may as well come after all the calls of the other client. -/
theorem overtake (separates : keyspace.Separates left [call]) :
    let first := (call.perform.run keyspace).state
    let behind := (StoreCall.performAll left keyspace).2
    (StoreCall.performAll left first).1 = (StoreCall.performAll left keyspace).1 ∧
      (StoreCall.performAll left first).2 = (call.perform.run behind).state ∧
      (call.perform.run behind).result = (call.perform.run keyspace).result := by
  induction left generalizing keyspace with
  | nil => exact ⟨rfl, rfl, rfl⟩
  | cons a left ih =>
    intro first behind
    have apart : a.Apart keyspace call :=
      separates a List.mem_cons_self call List.mem_cons_self
    rcases ih separates.after_left with ⟨answers, state, result⟩
    have order := apart.commute
    refine ⟨?_, ?_, ?_⟩
    · simp only [StoreCall.performAll, first]
      rw [apart.symm.result_eq, ← order, answers]
    · simp only [StoreCall.performAll, first]
      rw [← order, state]
      rfl
    · exact result.trans apart.result_eq

end Keyspace.Separates

namespace Schedule

theorem answersTo_cons (client other : Client) (call : StoreCall) (schedule : Schedule)
    (keyspace : Keyspace) :
    answersTo client ((other, call) :: schedule) keyspace =
      let outcome := call.perform.run keyspace
      if other = client then outcome.result :: answersTo client schedule outcome.state
      else answersTo client schedule outcome.state := by
  by_cases same : other = client <;> simp [answersTo, StoreCall.performAll, same]

variable {start : Keyspace} {schedule other : Schedule} {left right : List StoreCall}

/-- Clients that are kept apart are answered as if the left one went first with all its calls. -/
theorem eq_in_turn
    (separates : start.Separates (schedule.callsOf .left) (schedule.callsOf .right)) :
    let first := StoreCall.performAll (schedule.callsOf .left) start
    let second := StoreCall.performAll (schedule.callsOf .right) first.2
    schedule.answersTo .left start = first.1 ∧ schedule.answersTo .right start = second.1 ∧
      schedule.last start = second.2 := by
  induction schedule generalizing start with
  | nil => exact ⟨rfl, rfl, rfl⟩
  | cons turn schedule ih =>
    intro first second
    rcases turn with ⟨client, call⟩
    cases client with
    | left =>
      have calls : callsOf .left ((.left, call) :: schedule) = call :: callsOf .left schedule := rfl
      have others : callsOf .right ((.left, call) :: schedule) = callsOf .right schedule := rfl
      rw [calls, others] at separates
      rcases ih separates.after_left with ⟨to_left, to_right, last⟩
      refine ⟨?_, ?_, last⟩
      · rw [answersTo_cons]
        exact congrArg (_ :: ·) to_left
      · rw [answersTo_cons]
        exact to_right
    | right =>
      have calls : callsOf .right ((.right, call) :: schedule) = call :: callsOf .right schedule :=
        rfl
      have others : callsOf .left ((.right, call) :: schedule) = callsOf .left schedule := rfl
      rw [calls, others] at separates
      rcases ih separates.after_right with ⟨to_left, to_right, last⟩
      -- The call comes first but is counted behind all the calls of the left client.
      have alone : start.Separates (callsOf .left schedule) [call] := by
        intro a mem_a b mem_b
        rw [List.mem_singleton.1 mem_b]
        exact separates a mem_a call List.mem_cons_self
      rcases alone.overtake with ⟨answers, state, result⟩
      rw [state] at to_right last
      refine ⟨?_, ?_, last⟩
      · rw [answersTo_cons]
        exact to_left.trans answers
      · rw [answersTo_cons]
        change (call.perform.run start).result :: answersTo .right schedule _ = _
        rw [to_right, ← result]
        rfl

/-- Whatever the order of their calls, clients that a keyspace keeps apart get the same answers and
leave the same keyspace. -/
theorem order_makes_no_difference (separates : start.Separates left right)
    (interleaves : schedule.Interleaves left right) (interleaves' : other.Interleaves left right) :
    (∀ client, schedule.answersTo client start = other.answersTo client start) ∧
      schedule.last start = other.last start := by
  rcases interleaves with ⟨rfl, rfl⟩
  rcases interleaves' with ⟨same_left, same_right⟩
  have turn := eq_in_turn separates
  rw [← same_left, ← same_right] at separates
  have turn' := eq_in_turn separates
  rw [same_left, same_right] at turn'
  rcases turn with ⟨left, right, last⟩
  rcases turn' with ⟨left', right', last'⟩
  refine ⟨?_, last.trans last'.symm⟩
  intro client
  cases client with
  | left => exact left.trans left'.symm
  | right => exact right.trans right'.symm

/-- Two clients that fill one table, while one of them makes and drops a table of its own and the
other asks for what is not there. -/
theorem order_makes_no_difference_shared_table :
    let row : String → Row := fun key => (∅ : Row).insert "id" (.text key)
    let shared : Table := { layout := .ofKey "t" "id", rows := ∅ }
    let start : Keyspace := { name := "kcc", tables := .ofList [("t", shared)] }
    let left : List StoreCall :=
      [.createTable (.ofKey "own" "id"), .upsert "t" (row "x"), .dropTable "own"]
    let right : List StoreCall :=
      [.replace "t" (row "y"), .select "t" "y" (some ["age"]), .count "gone"]
    let inTurn : Schedule := left.map (.left, ·) ++ right.map (.right, ·)
    let byTurns : Schedule := (right.zip left).flatMap fun (b, a) => [(.right, b), (.left, a)]
    start.Separates left right ∧ inTurn.Interleaves left right ∧
      byTurns.Interleaves left right ∧
      (∀ client, inTurn.answersTo client start = byTurns.answersTo client start) ∧
      inTurn.last start = byTurns.last start := by
  intro row shared start left right inTurn byTurns
  have held : start.tables["t"]? = some shared := by decide
  have carries (key other : String) (admits : shared.layout.Admits key (row other)) :
      other = key := by
    simpa [row, shared, TableLayout.ofKey] using admits.keyed
  have separates : start.Separates left right := by
    simp only [Keyspace.Separates, left, right, List.forall_mem_cons, List.not_mem_nil,
      false_imp_iff, implies_true, and_true]
    refine ⟨⟨?_, ?_, ?_⟩, ⟨?upsert_replace, ?upsert_select, ?_⟩, ⟨?_, ?_, ?_⟩⟩
    case upsert_replace =>
      intro _
      refine ⟨rfl, rfl, ?_⟩
      rintro present there key ⟨written, replaced⟩
      obtain rfl : shared = present := Option.some.inj (held.symm.trans there)
      cases carries key "x" written
      exact absurd (carries "x" "y" replaced) (by decide)
    case upsert_select =>
      intro _
      refine ⟨rfl, rfl, ?_⟩
      rintro present there key ⟨written, rfl⟩
      obtain rfl : shared = present := Option.some.inj (held.symm.trans there)
      exact absurd (carries "y" "x" written) (by decide)
    -- All other pairs of calls name different tables.
    all_goals exact fun same => absurd same (by decide)
  have inTurn_ok : inTurn.Interleaves left right := ⟨by decide, by decide⟩
  have byTurns_ok : byTurns.Interleaves left right := ⟨by decide, by decide⟩
  exact ⟨separates, inTurn_ok, byTurns_ok,
    order_makes_no_difference separates inTurn_ok byTurns_ok⟩

end Schedule

end Cellwise

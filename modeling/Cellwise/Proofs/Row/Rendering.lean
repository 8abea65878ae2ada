import Mathlib.Data.List.Sort
import Cellwise.Proofs.Json.Lines
import Cellwise.Proofs.Text.ByteOrder
import Cellwise.Row.Basic

/-!
# The text of a row

A row is written as an object with a member for each column. The text does not say of what kind a
cell is, so that a set is written like the list of its items in ascending order. Nothing else is
lost, whatever the columns are called and whatever the cells hold: quotes, brackets and commas in
them never make the texts of two rows meet.

* `Cell.Alike` and `Row.Alike` say what the text does not tell apart.
* `Row.toJson_eq_iff` compares rows by their JSON.
* `Row.texts_tell_rows_up_to_sets` compares them by their texts and reads the texts back.
-/

namespace Cellwise

open Json Text

/-! ## Sets and lists -/

/-- The list of the items of a set in ascending byte order. -/
structure TextSet.Lists (items : TextSet) (listed : List String) : Prop where
  ascending : listed.Pairwise BytesLess
  mem_iff : ∀ item, item ∈ listed ↔ item ∈ items

theorem TextSet.lists_toList (items : TextSet) : items.Lists items.toList where
  ascending := Std.ExtTreeSet.ordered_toList.imp fun less =>
    bytesLess_iff.2 (compare_lt_iff_lt.1 less)
  mem_iff _ := Std.ExtTreeSet.mem_toList

/-- There is only one such list. -/
theorem TextSet.Lists.eq_toList {items : TextSet} {listed : List String}
    (lists : items.Lists listed) : listed = items.toList := by
  have ascending : listed.Pairwise (· < ·) := lists.ascending.imp bytesLess_iff.1
  have ordered : items.toList.Pairwise (· < ·) :=
    items.lists_toList.ascending.imp bytesLess_iff.1
  refine ascending.eq_of_mem_iff ordered ?_
  intro item
  rw [lists.mem_iff, items.lists_toList.mem_iff]

/-! ## Cells -/

namespace Cell

/-- The cells are equal, or one is a set and the other is its list. -/
inductive Alike : Cell → Cell → Prop where
  | same (cell : Cell) : Alike cell cell
  | setList {items : TextSet} {listed : List String} (lists : items.Lists listed) :
      Alike (.set items) (.list listed)
  | listSet {items : TextSet} {listed : List String} (lists : items.Lists listed) :
      Alike (.list listed) (.set items)

theorem map_string_inj {items other : List String} :
    items.map Json.string = other.map Json.string ↔ items = other :=
  List.map_inj_right fun _ _ => Json.string.inj

theorem toJson_eq_iff (cell other : Cell) : cell.toJson = other.toJson ↔ cell.Alike other := by
  constructor
  · intro same
    cases cell with
    | text content =>
      cases other with
      | text content' =>
        obtain rfl : content = content' := Json.string.inj same
        exact .same _
      | list items' => cases same
      | set items' => cases same
    | list items =>
      cases other with
      | text content' => cases same
      | list items' =>
        obtain rfl : items = items' := map_string_inj.1 (Json.array.inj same)
        exact .same _
      | set items' =>
        obtain rfl : items = items'.toList := map_string_inj.1 (Json.array.inj same)
        exact .listSet items'.lists_toList
    | set items =>
      cases other with
      | text content' => cases same
      | list items' =>
        obtain rfl : items.toList = items' := map_string_inj.1 (Json.array.inj same)
        exact .setList items.lists_toList
      | set items' =>
        have listed : items.toList = items'.toList := map_string_inj.1 (Json.array.inj same)
        obtain rfl : items = items' := Std.ExtTreeSet.toList_inj.1 listed
        exact .same _
  · intro alike
    cases alike with
    | same => rfl
    | setList lists => rw [lists.eq_toList, toJson, toJson]
    | listSet lists => rw [lists.eq_toList, toJson, toJson]

/-- The items of a set are written in byte order, where letters with accents stand behind those
without. -/
example : (Cell.set (.ofList ["b", "é", "a"])).toJson = (Cell.list ["a", "b", "é"]).toJson := by
  decide +kernel

theorem wholeNumbers_strings (items : List String) :
    (Json.array (items.map .string)).wholeNumbers = true := by
  rw [wholeNumbers_array, List.forall_mem_map]
  intro item _
  rfl

theorem depth_strings_le (items : List String) : (Json.array (items.map .string)).depth ≤ 1 := by
  rw [depth_array_le_succ, List.forall_mem_map]
  intro item _
  exact Nat.le_refl 0

theorem wholeNumbers_toJson (cell : Cell) : cell.toJson.wholeNumbers = true := by
  cases cell with
  | text content => rfl
  | list items => exact wholeNumbers_strings items
  | set items => exact wholeNumbers_strings items.toList

theorem depth_toJson_le (cell : Cell) : cell.toJson.depth ≤ 1 := by
  cases cell with
  | text content => exact Nat.zero_le 1
  | list items => exact depth_strings_le items
  | set items => exact depth_strings_le items.toList

end Cell

/-! ## Rows -/

namespace Row

/-- The rows have the same columns, and the cells in a column are alike. -/
structure Alike (row other : Row) : Prop where
  columns : ∀ column, column ∈ row ↔ column ∈ other
  cells : ∀ (column : String) (cell held : Cell), row[column]? = some cell →
    other[column]? = some held → cell.Alike held

/-- The members of the object that a row is written as. -/
def members (row : Row) : List (String × Json) := (row.map fun _ cell => cell.toJson).toList

theorem toJson_eq_object (row : Row) : row.toJson = .object row.members := by
  rw [toJson, members, Std.ExtTreeMap.toList_map]

theorem names_members (row : Row) : row.members.map Prod.fst = row.keys := by
  rw [members, Std.ExtTreeMap.map_fst_toList_eq_keys, Std.ExtTreeMap.keys_map]

theorem ascending_keys (row : Row) : row.keys.Pairwise BytesLess :=
  Std.ExtTreeMap.ordered_keys.imp fun less => bytesLess_iff.2 (compare_lt_iff_lt.1 less)

theorem toJson_eq_iff (row other : Row) : row.toJson = other.toJson ↔ Alike row other := by
  have by_column : row.toJson = other.toJson ↔
      ∀ column : String, row[column]?.map Cell.toJson = other[column]?.map Cell.toJson := by
    rw [toJson_eq_object, toJson_eq_object, Json.object.injEq, members, members,
      Std.ExtTreeMap.toList_inj]
    constructor
    · intro same column
      have found := congrArg (fun map : Std.ExtTreeMap String Json => map[column]?) same
      simpa [Std.ExtTreeMap.getElem?_map] using found
    · intro same
      refine Std.ExtTreeMap.ext_getElem? fun {column} => ?_
      simpa [Std.ExtTreeMap.getElem?_map] using same column
  rw [by_column]
  constructor
  · intro same
    refine ⟨?columns, ?cells⟩
    case columns =>
      intro column
      have present := congrArg Option.isSome (same column)
      rw [Option.isSome_map, Option.isSome_map] at present
      rw [Std.ExtTreeMap.mem_iff_isSome_getElem?, Std.ExtTreeMap.mem_iff_isSome_getElem?, present]
    case cells =>
      intro column cell held found found'
      have equal := same column
      rw [found, found'] at equal
      exact (Cell.toJson_eq_iff cell held).1 (Option.some.inj equal)
  · intro alike column
    have present := alike.columns column
    rw [Std.ExtTreeMap.mem_iff_isSome_getElem?, Std.ExtTreeMap.mem_iff_isSome_getElem?] at present
    cases found : row[column]? with
    | none =>
      rw [found] at present
      have absent : other[column]? = none := by simpa using present
      rw [absent]
    | some cell =>
      rw [found] at present
      rcases Option.isSome_iff_exists.1 (present.1 rfl) with ⟨held, found'⟩
      have equal := (Cell.toJson_eq_iff cell held).2 (alike.cells column cell held found found')
      rw [found', Option.map_some, Option.map_some, equal]

/-! ## Texts -/

theorem exists_cell_of_mem {row : Row} {member : String × Json} (mem : member ∈ row.members) :
    ∃ cell : Cell, member.2 = cell.toJson := by
  rw [members, Std.ExtTreeMap.toList_map] at mem
  rcases List.mem_map.1 mem with ⟨⟨column, cell⟩, -, rfl⟩
  exact ⟨cell, rfl⟩

theorem wholeNumbers_toJson (row : Row) : row.toJson.wholeNumbers = true := by
  rw [toJson_eq_object, wholeNumbers_object]
  intro member mem
  rcases exists_cell_of_mem mem with ⟨cell, eq⟩
  rw [eq]
  exact cell.wholeNumbers_toJson

/-- An array in an object is as deep as a row gets. -/
theorem depth_toJson_le (row : Row) : row.toJson.depth ≤ 2 := by
  rw [toJson_eq_object, depth_object_le_succ]
  intro member mem
  rcases exists_cell_of_mem mem with ⟨cell, eq⟩
  rw [eq]
  exact cell.depth_toJson_le

/-- Texts of two rows that are written in the same manner, with blanks or without, are equal if and
only if the rows are alike. -/
theorem text_eq_iff {text : Json → List Char} (spells : ∀ j, Spells j (text j)) (row other : Row) :
    text row.toJson = text other.toJson ↔ Alike row other := by
  rw [← toJson_eq_iff]
  constructor
  · intro same
    have spells' := spells other.toJson
    rw [← same] at spells'
    exact (spells row.toJson).unique spells' row.wholeNumbers_toJson other.wholeNumbers_toJson
  · exact congrArg text

/-- The texts of two rows are equal if and only if the rows have the same columns and, column by
column, the cells are equal or one is a set and the other is the list of its items in ascending
byte order. The text of a row is read as an object that has the columns as its names, in ascending
byte order. All of this holds of the text without blanks and of the indented one. -/
theorem texts_tell_rows_up_to_sets (row other : Row) :
    (row.toJson.render = other.toJson.render ↔ Alike row other) ∧
    (row.toJson.renderIndented = other.toJson.renderIndented ↔ Alike row other) ∧
    ∃ members : List (String × Json),
      ReadsAs row.toJson.render (.object members) ∧
      ReadsAs row.toJson.renderIndented (.object members) ∧
      (members.map Prod.fst).Pairwise BytesLess ∧
      ∀ column, column ∈ members.map Prod.fst ↔ column ∈ row := by
  have shallow : row.toJson.depth ≤ maxDepth := row.depth_toJson_le.trans (by decide)
  have reads {text : List Char} (spells : Spells row.toJson text) :
      ReadsAs (String.ofList text) (.object row.members) := by
    rw [← toJson_eq_object]
    exact readsAs_spelled spells row.wholeNumbers_toJson shallow
  refine ⟨?line, ?indented, row.members, reads (spells_chars _), reads (spells_indentedChars 0 _),
    ?ascending, ?columns⟩
  case line =>
    rw [← text_eq_iff spells_chars, render, render, String.ofList_inj]
  case indented =>
    rw [← text_eq_iff (spells_indentedChars 0), renderIndented, renderIndented, String.ofList_inj]
  case ascending =>
    rw [names_members]
    exact row.ascending_keys
  case columns =>
    intro column
    rw [names_members]
    exact Std.ExtTreeMap.mem_keys

end Row

end Cellwise

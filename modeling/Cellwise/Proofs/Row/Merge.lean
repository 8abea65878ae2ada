import Cellwise.Row.Basic
import Cellwise.Store.Keyspace

/-!
# What a written row leaves behind

A row is written either over the stored row of its key (`Row.mergeAll`) or in its place
(`Row.image`). Column by column, a written cell is kept unless it is an empty collection, which
leaves the column without a cell; a column that is not written keeps its old cell in the first case
and loses it in the second.
-/

namespace Cellwise

namespace Cell

/-- What a column holds after a cell was written to it. -/
def kept : Cell → Option Cell
  | .text content => some (.text content)
  | .list items => if items = [] then none else some (.list items)
  | .set items => if items = ∅ then none else some (.set items)

theorem isEmptyCollection_iff (cell : Cell) :
    cell.isEmptyCollection = true ↔ cell = .list [] ∨ cell = .set ∅ := by
  cases cell with
  | text content => simp [isEmptyCollection, size]
  | list items => simp [isEmptyCollection, size]
  | set items =>
    have empty : items.size = 0 ↔ items = ∅ := by
      rw [← Std.ExtTreeSet.isEmpty_iff, Std.ExtTreeSet.isEmpty_eq_size_beq_zero, beq_iff_eq]
    have size_eq : (Cell.set items).isEmptyCollection = true ↔ items.size = 0 := decide_eq_true_iff
    simpa using size_eq.trans empty

theorem kept_eq_ite (cell : Cell) :
    cell.kept = if cell.isEmptyCollection then none else some cell := by
  have empty := cell.isEmptyCollection_iff
  cases cell with
  | text content => simp [kept, isEmptyCollection, size]
  | list items => by_cases h : items = [] <;> simp_all [kept]
  | set items => by_cases h : items = ∅ <;> simp_all [kept]

theorem kept_eq_some_iff {cell left : Cell} :
    cell.kept = some left ↔ left = cell ∧ cell ≠ .list [] ∧ cell ≠ .set ∅ := by
  rw [kept_eq_ite, ← not_or, ← isEmptyCollection_iff]
  cases cell.isEmptyCollection with
  | true => simp
  | false => simp [eq_comm]

end Cell

namespace Row

variable (stored row : Row)

theorem getElem?_merge (column other : String) (cell : Cell) :
    (stored.merge column cell)[other]? = if column = other then cell.kept else stored[other]? := by
  rw [Cell.kept_eq_ite, merge]
  split <;> simp [Std.ExtTreeMap.getElem?_insert, Std.ExtTreeMap.getElem?_erase]

/-- Columns that are not among the written ones keep their cells. -/
theorem getElem?_foldl_merge_of_forall_ne (cells : List (String × Cell)) (column : String)
    (other : ∀ c ∈ cells, c.1 ≠ column) :
    (cells.foldl (fun stored (column, cell) => stored.merge column cell) stored)[column]? =
      stored[column]? := by
  induction cells generalizing stored with
  | nil => rfl
  | cons first cells ih =>
    rw [List.foldl_cons, ih _ fun c hc => other c (by simp [hc]), getElem?_merge,
      if_neg (other first (by simp))]

/-- Of the written columns, each is decided by its own cell. -/
theorem getElem?_foldl_merge_of_mem (cells : List (String × Cell)) (column : String) (cell : Cell)
    (distinct : cells.Pairwise fun a b => a.1 ≠ b.1) (mem : (column, cell) ∈ cells) :
    (cells.foldl (fun stored (column, cell) => stored.merge column cell) stored)[column]? =
      cell.kept := by
  induction cells generalizing stored with
  | nil => simp at mem
  | cons first cells ih =>
    -- The cells behind the one in question are of other columns.
    rcases List.pairwise_cons.1 distinct with ⟨apart, distinct⟩
    rw [List.foldl_cons]
    rcases List.mem_cons.1 mem with rfl | mem
    · rw [getElem?_foldl_merge_of_forall_ne _ _ _ fun c hc => (apart c hc).symm, getElem?_merge,
        if_pos rfl]
    · exact ih _ distinct mem

theorem getElem?_mergeAll (column : String) :
    (stored.mergeAll row)[column]? = (row[column]?.elim stored[column]? Cell.kept) := by
  cases written : row[column]? with
  | none =>
    refine getElem?_foldl_merge_of_forall_ne stored _ column ?_
    rintro ⟨name, cell⟩ mem rfl
    have := Std.ExtTreeMap.mem_toList_iff_getElem?_eq_some.1 mem
    simp [written] at this
  | some cell =>
    refine getElem?_foldl_merge_of_mem stored _ column cell ?_
      (Std.ExtTreeMap.mem_toList_iff_getElem?_eq_some.2 written)
    exact Std.ExtTreeMap.distinct_keys_toList.imp fun apart eq => apart (by simp [eq])

theorem getElem?_image (column : String) :
    row.image[column]? = row[column]?.bind Cell.kept := by
  rw [image, Std.ExtTreeMap.getElem?_filter']
  cases row[column]? with
  | none => rfl
  | some cell =>
    rw [Option.bind_some, Cell.kept_eq_ite]
    cases h : cell.isEmptyCollection <;> simp [h]

end Row

end Cellwise

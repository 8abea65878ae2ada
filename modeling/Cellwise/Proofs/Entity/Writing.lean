import Cellwise.Entity.Writing
import Cellwise.Proofs.Effect
import Cellwise.Proofs.Row.Merge
import Cellwise.Proofs.Walk

/-!
# What calls write into a row

* `WriteCall.cell?` is the cell that a call writes, if it writes one at all, or why it fails.
* `WriteCall.effect_perform` says that this is all that a call does: it fills its column, or leaves
  the row as it is.
* `WriteCall.Brings` tells the cell by the texts that the values of the call have.
* `WriteCall.Fills` is a run of calls that all succeed.
-/

namespace Cellwise

variable {κ : Type} [FieldFamily κ] {registry : Registry κ}

theorem encodeField_of_write {column : String} {k : κ} {value : Value k} {stored : String}
    (written : registry.write k value = .ok stored) :
    encodeField registry column k value = .ok stored := by
  rw [encodeField, written]

/-- Values that a registry writes are written one by one. -/
theorem encodeAll_of_forall {column : String} {k : κ} {values : List (Value k)}
    {text : Value k → String}
    (written : ∀ value ∈ values, registry.write k value = .ok (text value)) :
    encodeAll registry column k values = .ok (values.map text) := by
  induction values with
  | nil => rfl
  | cons value values ih =>
    have first : encodeField registry column k value = .ok (text value) :=
      encodeField_of_write (written value List.mem_cons_self)
    have rest := ih fun other mem => written other (List.mem_cons_of_mem value mem)
    rw [encodeAll] at rest ⊢
    simp [first, rest, bind, Except.bind, pure, Except.pure]

/-- The row with a cell in a column, or as it is without one. -/
def Row.filled (row : Row) (column : String) : Option Cell → Row
  | none => row
  | some cell => row.insert column cell

theorem Row.getElem?_filled (row : Row) (column other : String) (cell : Option Cell) :
    (row.filled column cell)[other]? =
      if column = other then cell.or row[other]? else row[other]? := by
  cases cell with
  | none => simp [filled]
  | some cell => simp [filled, Std.ExtTreeMap.getElem?_insert]

namespace WriteCall

/-- The cell that a call writes, if it writes one, or why it fails. -/
def cell? (registry : Registry κ) : WriteCall κ → Except MappingError (Option Cell)
  | key _ text => .ok (some (.text text))
  | scalar _ _ none => .ok none
  | scalar column k (some value) =>
    (encodeField registry column k value).map fun stored => some (.text stored)
  | list column k values =>
    (encodeAll registry column k values).map fun stored => (Cell.list stored).kept
  | set column k values =>
    (encodeAll registry column k values).map fun stored => (Cell.set (.ofList stored)).kept

/-- A call fills its column with its cell, or fails and leaves the row as it is. -/
theorem effect_perform (call : WriteCall κ) (row : Row) :
    (call.perform registry).effect row =
      match call.cell? registry with
      | .error e => (.error e, row)
      | .ok cell => (.ok (), row.filled call.column cell) := by
  cases call with
  | key column text => rfl
  | scalar column k value =>
    cases value with
    | none => rfl
    | some value =>
      cases encoded : encodeField registry column k value with
      | error e =>
        simp only [perform, cell?, encoded, Except.map]
        exact Action.effect_bind_of_error (Action.effect_ofExcept _ _)
      | ok stored =>
        simp only [perform, cell?, encoded, Except.map]
        exact Action.effect_bind_of_ok (Action.effect_ofExcept _ _)
  | list column k values =>
    cases encoded : encodeAll registry column k values with
    | error e =>
      simp only [perform, cell?, encoded, Except.map]
      exact Action.effect_bind_of_error (Action.effect_ofExcept _ _)
    | ok stored =>
      simp only [perform, cell?, encoded, Except.map]
      rw [Action.effect_bind_of_ok (Action.effect_ofExcept _ _)]
      -- Without elements nothing is put into the row.
      cases stored <;> rfl
  | set column k values =>
    cases encoded : encodeAll registry column k values with
    | error e =>
      simp only [perform, cell?, encoded, Except.map]
      exact Action.effect_bind_of_error (Action.effect_ofExcept _ _)
    | ok stored =>
      simp only [perform, cell?, encoded, Except.map]
      rw [Action.effect_bind_of_ok (Action.effect_ofExcept _ _)]
      -- A set of texts is empty only if no text was put into it.
      cases stored with
      | nil =>
        have empty : (Cell.set (.ofList ([] : List String))).kept = none := by simp [Cell.kept]
        rw [empty]
        rfl
      | cons item items =>
        have nonempty : (Cell.set (.ofList (item :: items))).kept =
            some (.set (.ofList (item :: items))) := by simp [Cell.kept]
        rw [nonempty]
        rfl

/-! ## Cells by their values -/

/-- A call has something to write, and all of it has a stored text: this is the cell. -/
inductive Brings (registry : Registry κ) : WriteCall κ → Cell → Prop where
  | key (column text : String) : Brings registry (.key column text) (.text text)
  | scalar {column : String} {k : κ} {value : Value k} {stored : String}
      (encoded : encodeField registry column k value = .ok stored) :
      Brings registry (.scalar column k (some value)) (.text stored)
  | list {column : String} {k : κ} {values : List (Value k)} {texts : List String}
      (some_value : values ≠ [])
      (encoded : Collects (encodeField registry column k) values texts) :
      Brings registry (.list column k values) (.list texts)
  | set {column : String} {k : κ} {values : List (Value k)} {texts : TextSet}
      (some_value : values ≠ [])
      (encoded : ∀ value ∈ values, ∃ stored ∈ texts,
        encodeField registry column k value = .ok stored)
      (brought : ∀ stored ∈ texts, ∃ value ∈ values,
        encodeField registry column k value = .ok stored) :
      Brings registry (.set column k values) (.set texts)

theorem exists_encodeAll {column : String} {k : κ} {values : List (Value k)}
    (encoded : ∀ value ∈ values, ∃ stored, encodeField registry column k value = .ok stored) :
    ∃ texts, encodeAll registry column k values = .ok texts := by
  cases all : encodeAll registry column k values with
  | ok texts => exact ⟨texts, rfl⟩
  | error e =>
    obtain ⟨value, mem, failed⟩ := (mapM_eq_error_iff.1 all).exists_mem
    obtain ⟨stored, written⟩ := encoded value mem
    cases failed.symm.trans written

/-- The stored texts of values, taken as a set. -/
theorem mem_ofList_iff {column : String} {k : κ} {values : List (Value k)} {texts : List String}
    (collects : Collects (encodeField registry column k) values texts) (stored : String) :
    stored ∈ (Std.ExtTreeSet.ofList texts : TextSet) ↔
      ∃ value ∈ values, encodeField registry column k value = .ok stored := by
  rw [Std.ExtTreeSet.mem_ofList, List.contains_iff_mem]
  exact collects.mem_iff

theorem brings_of_cell? {call : WriteCall κ} {cell : Cell}
    (writes : call.cell? registry = .ok (some cell)) : call.Brings registry cell := by
  cases call with
  | key column text =>
    obtain rfl : .text text = cell := by simpa [cell?] using writes
    exact .key column text
  | scalar column k value =>
    cases value with
    | none => simp [cell?] at writes
    | some value =>
      cases encoded : encodeField registry column k value with
      | error e => simp [cell?, encoded, Except.map] at writes
      | ok stored =>
        obtain rfl : .text stored = cell := by simpa [cell?, encoded, Except.map] using writes
        exact .scalar encoded
  | list column k values =>
    cases encoded : encodeAll registry column k values with
    | error e => simp [cell?, encoded, Except.map] at writes
    | ok texts =>
      have each := mapM_eq_ok_iff.1 encoded
      have kept : (Cell.list texts).kept = some cell := by
        simpa [cell?, encoded, Except.map] using writes
      obtain ⟨rfl, nonempty, -⟩ := Cell.kept_eq_some_iff.1 kept
      refine .list ?_ each
      rintro rfl
      exact nonempty (congrArg Cell.list (List.forall₂_nil_left_iff.1 each))
  | set column k values =>
    cases encoded : encodeAll registry column k values with
    | error e => simp [cell?, encoded, Except.map] at writes
    | ok texts =>
      have each := mapM_eq_ok_iff.1 encoded
      have kept : (Cell.set (.ofList texts)).kept = some cell := by
        simpa [cell?, encoded, Except.map] using writes
      obtain ⟨rfl, -, nonempty⟩ := Cell.kept_eq_some_iff.1 kept
      refine .set ?_ ?_ fun stored mem => (mem_ofList_iff each stored).1 mem
      · rintro rfl
        obtain rfl := List.forall₂_nil_left_iff.1 each
        exact nonempty rfl
      · intro value mem
        obtain ⟨stored, written⟩ := each.exists_answer value mem
        exact ⟨stored, (mem_ofList_iff each stored).2 ⟨value, mem, written⟩, written⟩

/-- A call brings no empty collection. -/
theorem Brings.nonempty {call : WriteCall κ} {cell : Cell} (brings : call.Brings registry cell) :
    cell ≠ .list [] ∧ cell ≠ .set ∅ := by
  cases brings with
  | key column text => simp
  | scalar encoded => simp
  | @list column k values texts some_value encoded =>
    refine ⟨?_, nofun⟩
    rintro ⟨⟩
    exact some_value (List.forall₂_nil_right_iff.1 encoded)
  | @set column k values texts some_value each brought =>
    refine ⟨nofun, ?_⟩
    rintro ⟨⟩
    obtain ⟨value, mem⟩ := List.exists_mem_of_ne_nil values some_value
    obtain ⟨text, there, -⟩ := each value mem
    simp at there

theorem Brings.cell?_eq {call : WriteCall κ} {cell : Cell} (brings : call.Brings registry cell) :
    call.cell? registry = .ok (some cell) := by
  have kept : cell.kept = some cell := Cell.kept_eq_some_iff.2 ⟨rfl, brings.nonempty⟩
  cases brings with
  | key column text => rfl
  | scalar encoded => simp [cell?, encoded, Except.map]
  | @list column k values texts some_value collects =>
    have encoded : encodeAll registry column k values = .ok texts := mapM_eq_ok_iff.2 collects
    simp [cell?, encoded, Except.map, kept]
  | @set column k values texts some_value each brought =>
    obtain ⟨stored, encoded⟩ := exists_encodeAll fun value mem =>
      (each value mem).imp fun _ written => written.2
    have collects := mapM_eq_ok_iff.1 encoded
    have same : (Std.ExtTreeSet.ofList stored : TextSet) = texts := by
      refine Std.ExtTreeSet.ext_mem fun text => ?_
      rw [mem_ofList_iff collects]
      refine ⟨?_, brought text⟩
      rintro ⟨value, mem, written⟩
      obtain ⟨other, there, written'⟩ := each value mem
      rwa [Except.ok.inj (written.symm.trans written')]
    simp [cell?, encoded, Except.map, same, kept]

/-! ## Runs of calls -/

/-- Calls fill a row one after another, each of them with success. -/
inductive Fills (registry : Registry κ) : List (WriteCall κ) → Row → Row → Prop where
  | nil (row : Row) : Fills registry [] row row
  | cons {call : WriteCall κ} {calls : List (WriteCall κ)} {row between last : Row}
      (performed : (call.perform registry).effect row = (.ok (), between))
      (rest : Fills registry calls between last) : Fills registry (call :: calls) row last

theorem fills_iff {calls : List (WriteCall κ)} {row last : Row} :
    Fills registry calls row last ↔ (performAll registry calls).effect row = (.ok (), last) := by
  constructor
  · intro fills
    induction fills with
    | nil row => rfl
    | cons performed _ ih => exact (Action.effect_bind_of_ok performed).trans ih
  · intro run
    induction calls generalizing row with
    | nil =>
      obtain rfl : row = last := (Prod.mk.inj run).2
      exact .nil row
    | cons call calls ih =>
      obtain ⟨done, between, performed, rest⟩ := Action.effect_bind_eq_ok_iff.1 run
      exact .cons performed (ih rest)

/-- Calls fill their columns one after another. -/
theorem effect_performAll_cons {call : WriteCall κ} {cell : Option Cell}
    (writes : call.cell? registry = .ok cell) (calls : List (WriteCall κ)) (row : Row) :
    (performAll registry (call :: calls)).effect row =
      (performAll registry calls).effect (row.filled call.column cell) := by
  have first : (call.perform registry).effect row = (.ok (), row.filled call.column cell) := by
    rw [effect_perform, writes]
  exact Action.effect_bind_of_ok first

end WriteCall

theorem Row.effect_ofCalls {calls : List (WriteCall κ)} {row : Row}
    (writes : (WriteCall.performAll registry calls).effect ∅ = (.ok (), row)) :
    (Row.ofCalls registry calls).effect () = (.ok row, ()) :=
  Action.effect_bind_of_ok (Action.effect_inside_of_ok writes ())

end Cellwise

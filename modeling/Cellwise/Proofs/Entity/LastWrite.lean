import Mathlib.Data.List.Induction
import Cellwise.Proofs.Entity.Saving
import Cellwise.Proofs.Walk

/-!
# What is left of writes to one row

A row is written by calls, some of which may fail and some of which have nothing to write. Each
column is decided by the last call for it that succeeds and has something to write; all other calls
might as well not have been made.

* `WriteCall.Stumbles` says why a call fails, and `WriteCall.Brings` which cell it writes.
* `WriteCall.getElem?_rowAfter` and `WriteCall.getElem?_rowAfter_of_quiet` say what calls make of a
  column.
* `WriteCall.last_writes_decide` puts this together for runs of calls that go on behind a failure.
-/

namespace Cellwise

variable {κ : Type} [FieldFamily κ]

namespace WriteCall

variable {registry : Registry κ}

/-- A call fails because of the first of its values that has no stored text. -/
def Stumbles (registry : Registry κ) (error : MappingError) : WriteCall κ → Prop
  | key _ _ => False
  | scalar column k value => StopsAt (encodeField registry column k) value.toList error
  | list column k values => StopsAt (encodeField registry column k) values error
  | set column k values => StopsAt (encodeField registry column k) values error

/-! ## The cell of a call -/

theorem cell?_eq_error_iff {call : WriteCall κ} {error : MappingError} :
    call.cell? registry = .error error ↔ call.Stumbles registry error := by
  cases call with
  | key column text => simp [cell?, Stumbles]
  | scalar column k value =>
    cases value with
    | none => simp [cell?, Stumbles, not_stopsAt_nil]
    | some value =>
      simp only [cell?, Stumbles, Option.toList_some, stopsAt_cons_iff, not_stopsAt_nil, and_false,
        or_false]
      cases encodeField registry column k value <;> simp [Except.map]
  | list column k values =>
    rw [Stumbles, ← mapM_eq_error_iff, cell?, encodeAll]
    cases values.mapM (encodeField registry column k) <;> simp [Except.map]
  | set column k values =>
    rw [Stumbles, ← mapM_eq_error_iff, cell?, encodeAll]
    cases values.mapM (encodeField registry column k) <;> simp [Except.map]

/-- The cell that a call writes, if it succeeds and has something to write. -/
def brought? (registry : Registry κ) (call : WriteCall κ) : Option Cell :=
  (call.cell? registry).toOption.join

theorem brought?_eq_some_iff {call : WriteCall κ} {cell : Cell} :
    call.brought? registry = some cell ↔ call.Brings registry cell := by
  constructor
  · intro brought
    cases writes : call.cell? registry with
    | error e => simp [brought?, writes, Except.toOption] at brought
    | ok written =>
      obtain rfl : written = some cell := by simpa [brought?, writes, Except.toOption] using brought
      exact brings_of_cell? writes
  · intro brings
    rw [brought?, brings.cell?_eq]
    rfl

/-! ## Runs of calls -/

/-- The row that calls leave, where none of them minds if others fail. -/
def rowAfter (registry : Registry κ) (row : Row) (calls : List (WriteCall κ)) : Row :=
  calls.foldl (fun row call => row.filled call.column (call.brought? registry)) row

/-- How a call goes. -/
def verdict (registry : Registry κ) (call : WriteCall κ) : Except MappingError Unit :=
  (call.cell? registry).map fun _ => ()

theorem effect_perform_eq (call : WriteCall κ) (row : Row) :
    (call.perform registry).effect row =
      (call.verdict registry, row.filled call.column (call.brought? registry)) := by
  rw [effect_perform, verdict, brought?]
  cases call.cell? registry <;> rfl

theorem effect_performEach (calls : List (WriteCall κ)) (row : Row) :
    (performEach registry calls).effect row =
      (.ok (calls.map (verdict registry)), rowAfter registry row calls) := by
  induction calls generalizing row with
  | nil => rfl
  | cons call calls ih =>
    have first : (Action.attempt (call.perform registry) : Action Row MappingError _).effect row =
        (.ok (call.verdict registry), row.filled call.column (call.brought? registry)) := by
      rw [Action.effect_attempt, effect_perform_eq]
    rw [performEach, Action.effect_bind_of_ok first, Action.effect_bind_of_ok (ih _)]
    rfl

theorem verdict_eq_error_iff {call : WriteCall κ} {error : MappingError} :
    call.verdict registry = .error error ↔ call.Stumbles registry error := by
  rw [← cell?_eq_error_iff, verdict]
  cases call.cell? registry <;> simp [Except.map]

/-- Calls that bring nothing to a column leave it as it is. -/
theorem getElem?_rowAfter_of_quiet {calls : List (WriteCall κ)} {column : String}
    (quiet : ∀ call ∈ calls, call.column = column → ∀ cell, ¬call.Brings registry cell)
    (row : Row) : (rowAfter registry row calls)[column]? = row[column]? := by
  induction calls generalizing row with
  | nil => rfl
  | cons call calls ih =>
    rcases List.forall_mem_cons.1 quiet with ⟨first, quiet⟩
    calc (rowAfter registry row (call :: calls))[column]?
        = (row.filled call.column (call.brought? registry))[column]? := ih quiet _
      _ = row[column]? := by
          rw [Row.getElem?_filled]
          split
          next own =>
            have nothing : call.brought? registry = none := by
              rw [Option.eq_none_iff_forall_ne_some]
              intro cell brought
              exact first own cell (brought?_eq_some_iff.1 brought)
            rw [nothing, Option.none_or]
          next => rfl

/-- A column is decided by the last call that brings something to it. -/
theorem getElem?_rowAfter {before after : List (WriteCall κ)} {call : WriteCall κ} {cell : Cell}
    (brings : call.Brings registry cell)
    (last : ∀ later ∈ after, later.column = call.column → ∀ other, ¬later.Brings registry other)
    (row : Row) :
    (rowAfter registry row (before ++ call :: after))[call.column]? = some cell := by
  have split : rowAfter registry row (before ++ call :: after) = rowAfter registry
      ((rowAfter registry row before).filled call.column (call.brought? registry)) after := by
    simp only [rowAfter, List.foldl_append, List.foldl_cons]
  calc (rowAfter registry row (before ++ call :: after))[call.column]?
      = ((rowAfter registry row before).filled call.column
          (call.brought? registry))[call.column]? := by
        rw [split, getElem?_rowAfter_of_quiet last]
    _ = some cell := by
        rw [Row.getElem?_filled, if_pos rfl, brought?_eq_some_iff.2 brings, Option.some_or]

/-- Of the calls that bring something to a column, if there are any, one is the last. -/
theorem quiet_or_exists_last (registry : Registry κ) (calls : List (WriteCall κ))
    (column : String) :
    (∀ call ∈ calls, call.column = column → ∀ cell, ¬call.Brings registry cell) ∨
      ∃ before call after cell, calls = before ++ call :: after ∧ call.column = column ∧
        call.Brings registry cell ∧
        ∀ later ∈ after, later.column = column → ∀ other, ¬later.Brings registry other := by
  induction calls using List.reverseRecOn with
  | nil => exact .inl nofun
  | append_singleton calls call ih =>
    by_cases effective : call.column = column ∧ ∃ cell, call.Brings registry cell
    · obtain ⟨own, cell, brings⟩ := effective
      exact .inr ⟨calls, call, [], cell, rfl, own, brings, nofun⟩
    · have quiet : call.column = column → ∀ cell, ¬call.Brings registry cell :=
        fun own cell brings => effective ⟨own, cell, brings⟩
      rcases ih with all | ⟨before, last, after, cell, rfl, own, brings, behind⟩
      · refine .inl ?_
        intro other mem
        rcases List.mem_append.1 mem with mem | mem
        · exact all other mem
        · obtain rfl := List.mem_singleton.1 mem
          exact quiet
      · refine .inr ⟨before, last, after ++ [call], cell, by simp, own, brings, ?_⟩
        intro other mem
        rcases List.mem_append.1 mem with mem | mem
        · exact behind other mem
        · obtain rfl := List.mem_singleton.1 mem
          exact quiet

/-- What calls leave of a row without columns. -/
theorem getElem?_rowAfter_empty_iff {calls : List (WriteCall κ)} {column : String} {cell : Cell} :
    (rowAfter registry ∅ calls)[column]? = some cell ↔
      ∃ before call after, calls = before ++ call :: after ∧ call.column = column ∧
        call.Brings registry cell ∧
        ∀ later ∈ after, later.column = column → ∀ other, ¬later.Brings registry other := by
  constructor
  · intro held
    rcases quiet_or_exists_last registry calls column with
      quiet | ⟨before, call, after, last, rfl, rfl, brings, behind⟩
    · rw [getElem?_rowAfter_of_quiet quiet] at held
      simp at held
    · rw [getElem?_rowAfter brings behind] at held
      obtain rfl := Option.some.inj held
      exact ⟨before, call, after, rfl, rfl, brings, behind⟩
  · rintro ⟨before, call, after, rfl, rfl, brings, behind⟩
    exact getElem?_rowAfter brings behind ∅

theorem mem_rowAfter_empty_iff {calls : List (WriteCall κ)} {column : String} :
    column ∈ rowAfter registry ∅ calls ↔
      ∃ call ∈ calls, call.column = column ∧ ∃ cell, call.Brings registry cell := by
  rw [Std.ExtTreeMap.mem_iff_isSome_getElem?, Option.isSome_iff_exists]
  constructor
  · rintro ⟨cell, held⟩
    obtain ⟨before, call, after, rfl, own, brings, -⟩ := getElem?_rowAfter_empty_iff.1 held
    exact ⟨call, by simp, own, cell, brings⟩
  · rintro ⟨call, mem, own, cell, brings⟩
    rcases quiet_or_exists_last registry calls column with
      quiet | ⟨before, last, after, left, rfl, rfl, brought, behind⟩
    · exact absurd brings (quiet call mem own cell)
    · exact ⟨left, getElem?_rowAfter brought behind ∅⟩

theorem solid_rowAfter (registry : Registry κ) (calls : List (WriteCall κ)) :
    (rowAfter registry ∅ calls).Solid := by
  intro column cell held
  obtain ⟨before, call, after, -, -, brings, -⟩ := getElem?_rowAfter_empty_iff.1 held
  exact brings.nonempty

theorem effect_perform_of_error {call : WriteCall κ} {row later : Row} {error : MappingError}
    (failed : (call.perform registry).effect row = (.error error, later)) : later = row := by
  rw [effect_perform] at failed
  cases writes : call.cell? registry with
  | error e =>
    rw [writes] at failed
    exact (Prod.mk.inj failed).2.symm
  | ok cell => simp [writes] at failed

/-! ## Sets -/

theorem verdict_set_eq_ok_iff {column : String} {k : κ} {values : List (Value k)} :
    (set column k values).verdict registry = .ok () ↔
      ∀ value ∈ values, ∃ stored, encodeField registry column k value = .ok stored := by
  rw [verdict, cell?]
  constructor
  · intro ok
    cases encoded : encodeAll registry column k values with
    | error e => simp [encoded, Except.map] at ok
    | ok texts => exact (mapM_eq_ok_iff.1 encoded).exists_answer
  · intro each
    obtain ⟨texts, encoded⟩ := exists_encodeAll each
    rw [encoded]
    rfl

/-- A set does not care for the order of the values that it is given, or for repetitions. -/
theorem effect_perform_set_congr {column : String} {k : κ} {values others : List (Value k)}
    (same : ∀ value, value ∈ values ↔ value ∈ others) (row : Row) :
    (((set column k values).perform registry).effect row).2 =
        (((set column k others).perform registry).effect row).2 ∧
      ((((set column k values).perform registry).effect row).1 = .ok () ↔
        (((set column k others).perform registry).effect row).1 = .ok ()) := by
  have brought : (set column k values).brought? registry =
      (set column k others).brought? registry := by
    apply Option.ext
    intro cell
    rw [brought?_eq_some_iff, brought?_eq_some_iff]
    -- A set brings what it brings because of the values in it alone.
    have some_value : values ≠ [] ↔ others ≠ [] := by
      simp only [ne_eq, List.eq_nil_iff_forall_not_mem, same]
    constructor
    · rintro (_ | _ | _ | ⟨nonempty, each, brought⟩)
      exact .set (some_value.1 nonempty) (by simpa only [same] using each)
        (by simpa only [same] using brought)
    · rintro (_ | _ | _ | ⟨nonempty, each, brought⟩)
      exact .set (some_value.2 nonempty) (by simpa only [same] using each)
        (by simpa only [same] using brought)
  simp only [effect_perform_eq, verdict_set_eq_ok_iff, brought, WriteCall.column, same, and_self]

/-! ## What is left in the end -/

/-- Calls that write one row, whether or not others fail, leave a row in which each column holds
what the last call for it brought that brought anything. A call fails as the first of its values
that has no text does, and then leaves the row as it was. There are no empty collections in the row,
and of the values of a set only counts which they are. -/
theorem last_writes_decide (registry : Registry κ) (calls : List (WriteCall κ)) :
    (∃ (answers : List (Except MappingError Unit)) (row : Row),
      (performEach registry calls).effect ∅ = (.ok answers, row) ∧
      List.Forall₂ (fun call answer =>
        ∀ error, answer = .error error ↔ call.Stumbles registry error) calls answers ∧
      (∀ column, column ∈ row ↔
        ∃ call ∈ calls, call.column = column ∧ ∃ cell, call.Brings registry cell) ∧
      (∀ (column : String) (cell : Cell), row[column]? = some cell ↔
        ∃ before call after, calls = before ++ call :: after ∧ call.column = column ∧
          call.Brings registry cell ∧
          ∀ later ∈ after, later.column = column → ∀ other, ¬later.Brings registry other) ∧
      row.Solid) ∧
    (∀ (call : WriteCall κ) (row later : Row) (error : MappingError),
      (call.perform registry).effect row = (.error error, later) → later = row) ∧
    ∀ (column : String) (k : κ) (values others : List (Value k)) (row : Row),
      (∀ value, value ∈ values ↔ value ∈ others) →
        (((set column k values).perform registry).effect row).2 =
            (((set column k others).perform registry).effect row).2 ∧
          ((((set column k values).perform registry).effect row).1 = .ok () ↔
            (((set column k others).perform registry).effect row).1 = .ok ()) := by
  refine ⟨⟨calls.map (verdict registry), rowAfter registry ∅ calls, effect_performEach calls ∅,
    ?answers, ?columns, ?cells, solid_rowAfter registry calls⟩, ?failed, ?sets⟩
  case answers =>
    rw [List.forall₂_map_right_iff, List.forall₂_same]
    intro call _ error
    exact verdict_eq_error_iff
  case columns =>
    intro column
    exact mem_rowAfter_empty_iff
  case cells =>
    intro column cell
    exact getElem?_rowAfter_empty_iff
  case failed =>
    intro call row later error failed
    exact effect_perform_of_error failed
  case sets =>
    intro column k values others row same
    exact effect_perform_set_congr same row

/-- A list that is written behind a key stays, though a call fails behind it and others have nothing
to write; and a set is the same in whatever order its values come. -/
theorem last_writes_decide_list_behind_key :
    let registry : Registry FieldType := ⟨[], {}⟩
    let calls : List (WriteCall FieldType) :=
      [.key "c" "k", .list "c" .string ["b", "a", "b"], .scalar "c" .picky (some Glitch.refused),
        .list "c" .string [], .scalar "c" .string none]
    (∃ (answers : List (Except MappingError Unit)) (row : Row),
      (performEach registry calls).effect ∅ = (.ok answers, row) ∧
        answers[2]? = some (.error (.default "c" "picky refuses -1")) ∧
        row["c"]? = some (.list ["b", "a", "b"])) ∧
      (((set "d" .string ["y", "x", "y"]).perform registry).effect ∅).2 =
        (((set "d" .string ["x", "y"]).perform registry).effect ∅).2 := by
  intro registry calls
  obtain ⟨⟨answers, row, ran, judged, -, cells, -⟩, -, sets⟩ := last_writes_decide registry calls
  have refusal : encodeField registry "c" FieldType.picky Glitch.refused =
      .error (.default "c" "picky refuses -1") := by rfl
  refine ⟨⟨answers, row, ran, ?_, ?_⟩, ?_⟩
  · simp only [calls, List.forall₂_cons_left_iff] at judged
    obtain ⟨-, -, -, ⟨-, -, -, ⟨third, -, judged, -, rfl⟩, rfl⟩, rfl⟩ := judged
    exact congrArg some ((judged _).2 ⟨[], Glitch.refused, [], rfl, nofun, refusal⟩)
  · refine (cells "c" _).2 ⟨[.key "c" "k"], .list "c" .string ["b", "a", "b"], _, rfl, rfl,
      .list nofun (.cons rfl (.cons rfl (.cons rfl .nil))), ?_⟩
    simp only [List.forall_mem_cons, List.not_mem_nil, false_imp_iff, implies_true, and_true]
    refine ⟨?refused, ?empty, ?absent⟩
    case refused =>
      rintro - other (_ | ⟨encoded⟩)
      cases refusal.symm.trans encoded
    case empty =>
      rintro - other (_ | _ | ⟨some_value, -⟩)
      exact some_value rfl
    case absent =>
      rintro - other ⟨⟩
  · have same : ∀ value : Value FieldType.string, value ∈ ["y", "x", "y"] ↔ value ∈ ["x", "y"] := by
      intro value
      simp only [List.mem_cons, List.not_mem_nil, or_false]
      tauto
    exact (sets "d" .string _ _ ∅ same).1

end WriteCall

end Cellwise

import Mathlib.Data.List.Nodup
import Cellwise.Catalog.Converters
import Cellwise.Proofs.Convert.Lookup
import Cellwise.Proofs.Entity.Reading
import Cellwise.Proofs.Entity.Writing

/-!
# Fields that come back from their row

A converter is lawful if it reads back every text that it writes. What a lawful converter has
written comes back from the row, alone or in a collection, with one exception: where blank sources
are absent, a value that was written as a blank text is gone.

* `Registry.survivors` are the values of a collection that come back.
* A lawful converter has no two values with one text, so that a set has as many texts as elements.
-/

namespace Cellwise

variable {κ : Type} [FieldFamily κ] {k : κ}

/-- A converter that reads back what it writes. -/
def Converter.Lawful (converter : Converter k) : Prop :=
  ∀ (value : Value k) (stored : String),
    converter.write value = .ok stored → converter.read stored = .ok value

/-- The values that come back when each is stored as its text: those with a blank text do not where
blank sources are absent. -/
def Registry.survivors (registry : Registry κ) (text : Value k → String)
    (values : List (Value k)) : List (Value k) :=
  if registry.options.blankIsAbsent then values.filter fun value => !Text.isBlank (text value)
  else values

/-- What comes back from a stored text that a converter can read. -/
def Registry.back (registry : Registry κ) (converter : Converter k) (stored : String) :
    Option (Value k) :=
  if registry.options.blankIsAbsent && Text.isBlank stored then none
  else (converter.read stored).toOption

variable {registry : Registry κ} {converter : Converter k} {column : String}

namespace Converter.Lawful

variable (lawful : converter.Lawful) {text : Value k → String} {values : List (Value k)}

include lawful

theorem back_eq {value : Value k} {stored : String} (written : converter.write value = .ok stored) :
    registry.back converter stored =
      if registry.options.blankIsAbsent && Text.isBlank stored then none else some value := by
  rw [Registry.back, lawful value stored written]
  rfl

theorem effect_read (registered : registry.find? k = some converter) {value : Value k}
    {stored : String} (written : converter.write value = .ok stored) :
    (registry.read k stored).effect () = (.ok (registry.back converter stored), ()) := by
  rw [Registry.effect_read_of_some registered, lawful.back_eq written, lawful value stored written]
  -- A blank text may be absent; any other is given to the reader.
  split <;> rfl

/-- Two values with one text would both be what that text is read as. -/
theorem eq_of_text_eq {a b : Value k} {stored : String} (first : converter.write a = .ok stored)
    (second : converter.write b = .ok stored) : a = b := by
  have read_a := lawful a stored first
  have read_b := lawful b stored second
  rw [read_a] at read_b
  exact Except.ok.inj read_b

variable (accepted : ∀ value ∈ values, converter.write value = .ok (text value))

include accepted

theorem filterMap_back :
    (values.map text).filterMap (registry.back converter) = registry.survivors text values := by
  have each : ∀ value ∈ values, (registry.back converter ∘ text) value =
      if registry.options.blankIsAbsent && Text.isBlank (text value) then none else some value := by
    intro value mem
    exact lawful.back_eq (accepted value mem)
  rw [List.filterMap_map, List.filterMap_congr each, Registry.survivors]
  cases registry.options.blankIsAbsent with
  | false => simp
  | true =>
    -- What is mapped to itself or to nothing is filtered.
    rw [if_pos rfl, ← List.filterMap_eq_filter]
    apply List.filterMap_congr
    intro value _
    cases blank : Text.isBlank (text value) <;> simp [Option.guard, blank]

theorem nodup_map_text (distinct : values.Nodup) : (values.map text).Nodup := by
  refine List.Nodup.map_on ?_ distinct
  intro a mem_a b mem_b same
  have second := accepted b mem_b
  rw [← same] at second
  exact lawful.eq_of_text_eq (accepted a mem_a) second

end Converter.Lawful

/-! ## One call on a fresh row -/

/-- What one call writes is all that a fresh row holds. -/
theorem Row.exists_of_call {call : WriteCall κ} {cell : Option Cell}
    (writes : call.cell? registry = .ok cell) :
    ∃ row : Row, (Row.ofCalls registry [call]).effect () = (.ok row, ()) ∧
      row[call.column]? = cell := by
  refine ⟨Row.filled ∅ call.column cell, Row.effect_ofCalls ?_, ?_⟩
  · rw [WriteCall.effect_performAll_cons writes]
    rfl
  · simp [Row.getElem?_filled]

section Fields

variable (registered : registry.find? k = some converter)

include registered

theorem encodeField_of_converter {value : Value k} {stored : String}
    (written : converter.write value = .ok stored) :
    encodeField registry column k value = .ok stored := by
  refine encodeField_of_write ?_
  rw [Registry.write_of_some registered, written]
  rfl

theorem encodeAll_of_converter {values : List (Value k)} {text : Value k → String}
    (accepted : ∀ value ∈ values, converter.write value = .ok (text value)) :
    encodeAll registry column k values = .ok (values.map text) := by
  refine encodeAll_of_forall ?_
  intro value mem
  rw [Registry.write_of_some registered, accepted value mem]
  rfl

end Fields

/-! ## Sets of texts -/

/-- Distinct texts make up a set that lists them, in some order. -/
theorem toList_ofList_perm {texts : List String} (distinct : texts.Nodup) :
    (Std.ExtTreeSet.ofList texts : TextSet).toList.Perm texts := by
  have sorted : (Std.ExtTreeSet.ofList texts : TextSet).toList.Nodup := by
    refine Std.ExtTreeSet.distinct_toList.imp ?_
    intro a b apart same
    exact apart (Std.LawfulEqCmp.compare_eq_iff_eq.2 same)
  refine (List.perm_ext_iff_of_nodup sorted distinct).2 ?_
  intro stored
  simp [Std.ExtTreeSet.mem_toList, Std.ExtTreeSet.mem_ofList]

/-! ## What comes back -/

section Survival

variable (registered : registry.find? k = some converter) (lawful : converter.Lawful)
  {values : List (Value k)} {text : Value k → String}
  (accepted : ∀ value ∈ values, converter.write value = .ok (text value))

include registered lawful

theorem exists_row_of_scalar {value : Value k} {stored : String}
    (written : converter.write value = .ok stored) :
    ∃ row : Row, (Row.ofCalls registry [.scalar column k (some value)]).effect () = (.ok row, ()) ∧
      (row.readScalar registry column k).effect () =
        (.ok (if registry.options.blankIsAbsent && Text.isBlank stored then none else some value),
          ()) := by
  have encoded : encodeField registry column k value = .ok stored :=
    encodeField_of_converter registered written
  have writes : (WriteCall.scalar column k (some value)).cell? registry =
      .ok (some (.text stored)) := by
    simp [WriteCall.cell?, encoded, Except.map]
  rcases Row.exists_of_call writes with ⟨row, fills, held⟩
  refine ⟨row, fills, ?_⟩
  rw [← lawful.back_eq written]
  exact Row.effect_readScalar_of_some held (lawful.effect_read registered written)

include accepted

/-- The texts of a collection are read as what they were written for. -/
theorem effect_read_texts :
    ∀ stored ∈ values.map text, (registry.read k stored).effect () =
      (.ok (registry.back converter stored), ()) := by
  intro stored mem
  rcases List.mem_map.1 mem with ⟨value, there, rfl⟩
  exact lawful.effect_read registered (accepted value there)

theorem exists_row_of_list :
    ∃ row : Row, (Row.ofCalls registry [.list column k values]).effect () = (.ok row, ()) ∧
      (row.readList registry column k).effect () = (.ok (registry.survivors text values), ()) := by
  have encoded : encodeAll registry column k values = .ok (values.map text) :=
    encodeAll_of_converter registered accepted
  have writes : (WriteCall.list column k values).cell? registry =
      .ok (Cell.list (values.map text)).kept := by
    simp [WriteCall.cell?, encoded, Except.map]
  rcases Row.exists_of_call writes with ⟨row, fills, held⟩
  have held : row[column]? = (Cell.list (values.map text)).kept := held
  refine ⟨row, fills, ?_⟩
  rw [← lawful.filterMap_back accepted]
  -- Without elements there is no cell, and no cell reads as no elements.
  by_cases nothing : values = []
  · subst nothing
    exact Row.effect_readList_of_none held
  · rw [Cell.kept, if_neg (by simpa using nothing)] at held
    exact Row.effect_readList_of_some held (effect_read_texts registered lawful accepted)

theorem exists_row_of_set (structural : ∀ a b : Value k, FieldFamily.same k a b = true ↔ a = b)
    (distinct : values.Nodup) :
    ∃ (row : Row) (elements : List (Value k)),
      (Row.ofCalls registry [.set column k values]).effect () = (.ok row, ()) ∧
      (row.readSet registry column k).effect () = (.ok elements, ()) ∧
      elements.Perm (registry.survivors text values) ∧
      ((row.set? column).getD ∅).size = values.length := by
  have encoded : encodeAll registry column k values = .ok (values.map text) :=
    encodeAll_of_converter registered accepted
  have writes : (WriteCall.set column k values).cell? registry =
      .ok (Cell.set (.ofList (values.map text))).kept := by
    simp [WriteCall.cell?, encoded, Except.map]
  rcases Row.exists_of_call writes with ⟨row, fills, held⟩
  have held : row[column]? = (Cell.set (.ofList (values.map text))).kept := held
  by_cases nothing : values = []
  · subst nothing
    have held : row[column]? = none := by simpa [Cell.kept] using held
    refine ⟨row, [], fills, Row.effect_readSet_of_none held, ?_, ?_⟩
    · simp [Registry.survivors]
    · simp [Row.set?, held]
  · have some_text : (Std.ExtTreeSet.ofList (values.map text) : TextSet) ≠ ∅ := by
      simpa using nothing
    rw [Cell.kept, if_neg some_text] at held
    have texts := toList_ofList_perm (lawful.nodup_map_text accepted distinct)
    have read : ∀ stored ∈ (Std.ExtTreeSet.ofList (values.map text) : TextSet),
        (registry.read k stored).effect () =
          (.ok (registry.back converter stored), ()) := by
      intro stored mem
      apply effect_read_texts registered lawful accepted
      exact texts.mem_iff.1 (Std.ExtTreeSet.mem_toList.2 mem)
    have values_read := Row.effect_readSet_of_some held read
    -- The texts are read in their own order, which makes no difference to a set.
    have perm := texts.filterMap (registry.back converter)
    rw [lawful.filterMap_back accepted] at perm
    have survivors_nodup : (registry.survivors text values).Nodup := by
      rw [Registry.survivors]
      split
      next => exact distinct.filter _
      next => exact distinct
    rw [distinct_of_nodup structural (perm.nodup_iff.2 survivors_nodup)] at values_read
    refine ⟨row, _, fills, values_read, perm, ?_⟩
    have length := texts.length_eq
    simpa [Row.set?, held] using length

end Survival

/-- What a lawful converter has written comes back from the row, but for what was written as a blank
text where blank sources are absent: a list keeps its order and repetitions, a set its elements,
and the cell of the set has one text for each of them. -/
theorem Converter.Lawful.only_blanks_are_lost (registered : registry.find? k = some converter)
    (structural : ∀ a b : Value k, FieldFamily.same k a b = true ↔ a = b)
    (lawful : converter.Lawful) (column : String) (values : List (Value k))
    (text : Value k → String)
    (accepted : ∀ value ∈ values, converter.write value = .ok (text value)) :
    (∃ row : Row, (Row.ofCalls registry [.list column k values]).effect () = (.ok row, ()) ∧
      (row.readList registry column k).effect () = (.ok (registry.survivors text values), ())) ∧
    (values.Nodup → ∃ (row : Row) (elements : List (Value k)),
      (Row.ofCalls registry [.set column k values]).effect () = (.ok row, ()) ∧
      (row.readSet registry column k).effect () = (.ok elements, ()) ∧
      elements.Perm (registry.survivors text values) ∧
      ((row.set? column).getD ∅).size = values.length) ∧
    ∀ value ∈ values, ∃ row : Row,
      (Row.ofCalls registry [.scalar column k (some value)]).effect () = (.ok row, ()) ∧
      (row.readScalar registry column k).effect () =
        (.ok (if registry.options.blankIsAbsent && Text.isBlank (text value) then none
          else some value), ()) := by
  refine ⟨exists_row_of_list registered lawful accepted, ?_, ?_⟩
  · intro distinct
    exact exists_row_of_set registered lawful accepted structural distinct
  · intro value mem
    exact exists_row_of_scalar registered lawful (accepted value mem)

/-- Where texts are stored as they are, a blank one is lost from lists and sets, though the set cell
has a place for it. -/
theorem Converter.Lawful.only_blanks_are_lost_texts :
    let registry : Registry FieldType :=
      { converters := [⟨.string, TextConverter.plain⟩], options := { blankIsAbsent := true } }
    let values : List (Value FieldType.string) := ["b", " ", "a"]
    TextConverter.plain.Lawful ∧ values.Nodup ∧
      (∃ row : Row, (Row.ofCalls registry [.list "tags" .string values]).effect () = (.ok row, ()) ∧
        (row.readList registry "tags" .string).effect () = (.ok ["b", "a"], ())) ∧
      (∃ (row : Row) (elements : List (Value FieldType.string)),
        (Row.ofCalls registry [.set "tags" .string values]).effect () = (.ok row, ()) ∧
        (row.readSet registry "tags" .string).effect () = (.ok elements, ()) ∧
        elements.Perm ["b", "a"] ∧ ((row.set? "tags").getD ∅).size = 3) ∧
      ∃ row : Row,
        (Row.ofCalls registry [.scalar "tags" .string (some " ")]).effect () = (.ok row, ()) ∧
        (row.readScalar registry "tags" .string).effect () = (.ok none, ()) := by
  intro registry values
  have lawful : TextConverter.plain.Lawful := by
    intro value stored written
    exact congrArg Except.ok (Except.ok.inj written).symm
  have distinct : values.Nodup := (by decide : (["b", " ", "a"] : List String).Nodup)
  have blank : (" " : Value FieldType.string) ∈ values := .tail _ (.head _)
  have registered : registry.find? FieldType.string = some TextConverter.plain := rfl
  have structural : ∀ a b : Value FieldType.string,
      FieldFamily.same FieldType.string a b = true ↔ a = b := fun a b => decide_eq_true_iff
  obtain ⟨list, set, scalar⟩ :=
    only_blanks_are_lost registered structural lawful "tags" values id (fun _ _ => rfl)
  exact ⟨lawful, distinct, list, set distinct, scalar " " blank⟩

end Cellwise

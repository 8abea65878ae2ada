import Cellwise.Entity.Reading
import Cellwise.Proofs.Effect

/-!
# What is read from a row

Whatever a registry reads a stored text as is what a field is read as, alone or in a collection,
where the texts that read as absent are left out.
-/

namespace Cellwise

variable {κ : Type} [FieldFamily κ] {registry : Registry κ} {column : String} {k : κ}

/-- Where only equal values are one element, dropping repetitions keeps every value. -/
theorem mem_distinct (lawful : ∀ a b : Value k, FieldFamily.same k a b = true ↔ a = b)
    {values : List (Value k)} {value : Value k} :
    value ∈ FieldFamily.distinct k values ↔ value ∈ values := by
  let _ : BEq (Value k) := ⟨FieldFamily.same k⟩
  have _ : LawfulBEq (Value k) :=
    { eq_of_beq := fun same => (lawful _ _).1 same
      rfl := (lawful _ _).2 rfl }
  exact List.mem_eraseDups

/-- Values without repetition are all elements. -/
theorem distinct_of_nodup (lawful : ∀ a b : Value k, FieldFamily.same k a b = true ↔ a = b)
    {values : List (Value k)} (nodup : values.Nodup) :
    FieldFamily.distinct k values = values := by
  induction values with
  | nil => rfl
  | cons value values ih =>
    rcases List.nodup_cons.1 nodup with ⟨fresh, nodup⟩
    have others : values.filter (fun other => FieldFamily.same k other value = false) = values := by
      rw [List.filter_eq_self]
      intro other mem
      have apart : FieldFamily.same k other value ≠ true := by
        intro same
        rw [(lawful other value).1 same] at mem
        exact fresh mem
      simp [apart]
    rw [FieldFamily.distinct, List.eraseDupsBy_cons, others]
    exact congrArg (value :: ·) (ih nodup)

theorem effect_decodeField {stored : String} {value : Option (Value k)}
    (read : (registry.read k stored).effect () = (.ok value, ())) :
    (decodeField registry column k stored).effect () = (.ok value, ()) := by
  have attempted : (Action.attempt (registry.read k stored) : Report MappingError _).effect () =
      (.ok (.ok value), ()) := by
    rw [Action.effect_attempt, read]
  exact Action.effect_bind_of_ok attempted

namespace Row

variable {row : Row}

/-- A key is read as it stands. -/
theorem readKey_eq_ok_iff {text : String} :
    row.readKey column = .ok text ↔ row[column]? = some (.text text) := by
  rw [readKey]
  cases held : row[column]? with
  | none => simp
  | some cell => cases cell <;> simp

/-- Texts that are read one by one. -/
theorem effect_readItems {items : List String} {back : String → Option (Value k)}
    (read : ∀ stored ∈ items, (registry.read k stored).effect () = (.ok (back stored), ())) :
    (readItems registry column k items).effect () = (.ok (items.filterMap back), ()) := by
  induction items with
  | nil => rfl
  | cons stored items ih =>
    have first : (decodeField registry column k stored).effect () = (.ok (back stored), ()) :=
      effect_decodeField (read stored List.mem_cons_self)
    have rest := ih fun other mem => read other (List.mem_cons_of_mem stored mem)
    rw [readItems, Action.effect_bind_of_ok first, List.filterMap_cons]
    cases back stored with
    | none => exact (Action.effect_bind_of_ok (Action.effect_log _ _ _ _ _)).trans rest
    | some value => exact Action.effect_bind_of_ok rest

theorem effect_readScalar_of_some {stored : String} {value : Option (Value k)}
    (held : row[column]? = some (.text stored))
    (read : (registry.read k stored).effect () = (.ok value, ())) :
    (row.readScalar registry column k).effect () = (.ok value, ()) := by
  rw [readScalar, held]
  exact effect_decodeField read

theorem effect_readScalar_of_none (absent : row[column]? = none) :
    (row.readScalar registry column k).effect () = (.ok none, ()) := by
  rw [readScalar, absent]
  rfl

theorem effect_readList_of_some {items : List String} {back : String → Option (Value k)}
    (held : row[column]? = some (.list items))
    (read : ∀ stored ∈ items, (registry.read k stored).effect () = (.ok (back stored), ())) :
    (row.readList registry column k).effect () = (.ok (items.filterMap back), ()) := by
  rw [readList, held]
  exact effect_readItems read

theorem effect_readList_of_none (absent : row[column]? = none) :
    (row.readList registry column k).effect () = (.ok [], ()) := by
  rw [readList, absent]
  rfl

theorem effect_readSet_of_some {items : TextSet} {back : String → Option (Value k)}
    (held : row[column]? = some (.set items))
    (read : ∀ stored ∈ items, (registry.read k stored).effect () = (.ok (back stored), ())) :
    (row.readSet registry column k).effect () =
      (.ok (FieldFamily.distinct k (items.toList.filterMap back)), ()) := by
  have values : (readItems registry column k items.toList).effect () =
      (.ok (items.toList.filterMap back), ()) :=
    effect_readItems fun stored mem => read stored (Std.ExtTreeSet.mem_toList.1 mem)
  rw [readSet, held, Action.effect_bind_of_ok values]
  rfl

theorem effect_readSet_of_none (absent : row[column]? = none) :
    (row.readSet registry column k).effect () = (.ok [], ()) := by
  rw [readSet, absent]
  rfl

end Row

namespace ReadPlan

variable {α : Type} {row : Row}

theorem effect_run_key {key : String} (next : String → ReadPlan κ α)
    (read : row.readKey column = .ok key) :
    ((ReadPlan.key column next).run registry row).effect () =
      ((next key).run registry row).effect () := by
  rw [run, read]
  exact Action.effect_bind_of_ok (Action.effect_ofExcept _ _)

theorem effect_run_scalar {value : Option (Value k)} (next : Option (Value k) → ReadPlan κ α)
    (read : (row.readScalar registry column k).effect () = (.ok value, ())) :
    ((ReadPlan.scalar column k next).run registry row).effect () =
      ((next value).run registry row).effect () :=
  Action.effect_bind_of_ok read

theorem effect_run_list {values : List (Value k)} (next : List (Value k) → ReadPlan κ α)
    (read : (row.readList registry column k).effect () = (.ok values, ())) :
    ((ReadPlan.list column k next).run registry row).effect () =
      ((next values).run registry row).effect () :=
  Action.effect_bind_of_ok read

theorem effect_run_set {values : List (Value k)} (next : List (Value k) → ReadPlan κ α)
    (read : (row.readSet registry column k).effect () = (.ok values, ())) :
    ((ReadPlan.set column k next).run registry row).effect () =
      ((next values).run registry row).effect () :=
  Action.effect_bind_of_ok read

end ReadPlan

end Cellwise

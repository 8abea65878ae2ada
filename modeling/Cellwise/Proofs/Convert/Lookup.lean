import Mathlib.Data.List.Nodup
import Cellwise.Convert.Registry
import Cellwise.Proofs.Effect

/-!
# The converter of a type

A registry finds the first converter of its list that is for a type, and converts with that one. A
type for which it finds none has no converter, whatever the source is.
-/

namespace Cellwise

variable {κ : Type} [FieldFamily κ] {k : κ}

/-! ## The first converter of a list -/

theorem findConverter_append (k : κ) (before after : List (SomeConverter κ)) :
    findConverter k (before ++ after) =
      (findConverter k before).or (findConverter k after) := by
  induction before with
  | nil => rfl
  | cons first before ih =>
    rcases first with ⟨other, converter⟩
    rw [List.cons_append, findConverter, findConverter]
    split
    next => rfl
    next => exact ih

theorem findConverter_eq_none_iff {converters : List (SomeConverter κ)} :
    findConverter k converters = none ↔ k ∉ converters.map (·.1) := by
  induction converters with
  | nil => simp [findConverter]
  | cons first converters ih =>
    rcases first with ⟨other, converter⟩
    by_cases same : other = k
    · simp [findConverter, same]
    · have apart : k ≠ other := fun eq => same eq.symm
      simp [findConverter, same, apart, ih]

theorem isSome_findConverter_iff {converters : List (SomeConverter κ)} :
    (findConverter k converters).isSome = true ↔ k ∈ converters.map (·.1) := by
  have none_iff : findConverter k converters = none ↔ k ∉ converters.map (·.1) :=
    findConverter_eq_none_iff
  cases found : findConverter k converters with
  | none => simpa [found] using none_iff
  | some converter => simpa [found] using none_iff

/-- What comes first for a type is found, whatever comes behind it. -/
theorem findConverter_of_first {before : List (SomeConverter κ)} (converter : Converter k)
    (after : List (SomeConverter κ)) (first : k ∉ before.map (·.1)) :
    findConverter k (before ++ ⟨k, converter⟩ :: after) = some converter := by
  rw [findConverter_append, findConverter_eq_none_iff.2 first]
  simp [findConverter]

/-- Where every type has one converter at most, the order of the list does not count. -/
theorem findConverter_perm {converters others : List (SomeConverter κ)}
    (perm : converters.Perm others) (distinct : (converters.map (·.1)).Nodup) (k : κ) :
    findConverter k converters = findConverter k others := by
  induction perm with
  | nil => rfl
  | cons first perm ih =>
    have rest := ih (List.nodup_cons.1 distinct).2
    rw [findConverter, findConverter, rest]
  | swap first second converters =>
    rcases first with ⟨a, _⟩
    rcases second with ⟨b, _⟩
    have apart : b ≠ a := by
      have fresh := (List.nodup_cons.1 distinct).1
      intro same
      simp [same] at fresh
    by_cases isA : a = k
    · have notB : b ≠ k := fun isB => apart (isB.trans isA.symm)
      simp [findConverter, isA, notB]
    · simp [findConverter, isA]
  | trans perm _ ih ih' =>
    exact (ih distinct).trans (ih' ((perm.map _).nodup_iff.1 distinct))

/-! ## Conversion by what is found -/

namespace Registry

variable {registry : Registry κ} {converter : Converter k}

theorem write_of_some (registered : registry.find? k = some converter) (value : Value k) :
    registry.write k value =
      (converter.write value).mapError (.conversion (typeName k) .write) := by
  rw [write, registered]

theorem write_of_none (unregistered : registry.find? k = none) (value : Value k) :
    registry.write k value = .error (.noConverter (typeName k)) := by
  rw [write, unregistered]

/-- A converter reads every source with one call of its reader, but for a source that is blank while
blank sources are absent. -/
theorem traced_read_of_some (registered : registry.find? k = some converter) (source : String) :
    (registry.read k source).traced =
      if registry.options.blankIsAbsent && Text.isBlank source then (.ok none, [])
      else (((converter.read source).map some).mapError (.conversion (typeName k) .read),
        [(typeName k, source)]) := by
  rw [read, registered]
  simp only
  split
  next => rfl
  next => cases converter.read source <;> rfl

theorem traced_read_of_none (unregistered : registry.find? k = none) (source : String) :
    (registry.read k source).traced = (.error (.noConverter (typeName k)), []) := by
  rw [read, unregistered]
  rfl

theorem effect_read_of_some (registered : registry.find? k = some converter) (source : String) :
    (registry.read k source).effect () =
      (if registry.options.blankIsAbsent && Text.isBlank source then .ok none
        else ((converter.read source).map some).mapError (.conversion (typeName k) .read), ()) := by
  rw [Action.effect_eq_traced, traced_read_of_some registered]
  split <;> rfl

theorem effect_read_of_none (unregistered : registry.find? k = none) (source : String) :
    (registry.read k source).effect () = (.error (.noConverter (typeName k)), ()) := by
  rw [Action.effect_eq_traced, traced_read_of_none unregistered]

end Registry

end Cellwise

import Mathlib.Data.Finset.Card
import Cellwise.Catalog.Converters
import Cellwise.Proofs.Convert.Lookup

/-!
# The first registration wins

Converters that are registered one after another leave a registry in which every type has the first
converter of the list that is for it.

* `RegistryBuilder.Collected` relates the converters of a builder to the list that was registered
  so far. One registration preserves it (`Collected.effect_register`), and so does a run of
  registrations (`Collected.effect_registerEach`).
* `RegistryBuilder.first_registration_wins` reads off what the registry answers.
-/

namespace Cellwise

variable {κ : Type} [FieldFamily κ] {k : κ}

namespace RegistryBuilder

/-! ## One registration -/

/-- The failure of a registration whose type has a converter already. -/
def alreadyRegistered (k : κ) : RegistryError :=
  .configuration ("converter for " ++ typeName k ++ " is already registered")

/-- How the registration of a converter goes behind others. -/
def verdict (registered : List (SomeConverter κ)) (added : SomeConverter κ) :
    Except RegistryError Unit :=
  if added.1 ∈ registered.map (·.1) then .error (alreadyRegistered added.1) else .ok ()

/-- A registration is refused, with nothing changed, or puts its converter behind the others. -/
theorem effect_register (added : SomeConverter κ) (builder : RegistryBuilder κ) :
    (register added).effect builder =
      if added.1 ∈ builder.converters.map (·.1) then
        (.error (alreadyRegistered added.1), builder)
      else
        (.ok (), { builder with converters := builder.converters ++ [added] }) := by
  have got : (Action.get : Action (RegistryBuilder κ) RegistryError _).effect builder =
      (.ok builder, builder) := rfl
  rw [register, Action.effect_bind_of_ok got]
  cases found : findConverter added.1 builder.converters with
  | none =>
    have fresh := findConverter_eq_none_iff.1 found
    rw [if_neg fresh]
    exact Action.effect_bind_of_ok (Action.effect_log ..)
  | some converter =>
    have taken : added.1 ∈ builder.converters.map (·.1) :=
      isSome_findConverter_iff.1 (by simp [found])
    rw [if_pos taken]
    rfl

/-- The converters of a builder are the first ones for their types of those that were registered,
and no type has two. -/
structure Collected (registered : List (SomeConverter κ)) (builder : RegistryBuilder κ) :
    Prop where
  distinct : (builder.converters.map (·.1)).Nodup
  find_eq : ∀ k : κ, findConverter k builder.converters = findConverter k registered

namespace Collected

variable {registered : List (SomeConverter κ)} {builder : RegistryBuilder κ}

theorem nil (options : RegistryOptions) : Collected (κ := κ) [] { options } where
  distinct := List.nodup_nil
  find_eq _ := rfl

theorem mem_types_iff (collected : Collected registered builder) (k : κ) :
    k ∈ builder.converters.map (·.1) ↔ k ∈ registered.map (·.1) := by
  rw [← isSome_findConverter_iff, ← isSome_findConverter_iff, collected.find_eq]

/-- A registration is refused exactly if its type was registered before, and then it changes
nothing; either way the builder has collected what was registered, the new converter included. -/
theorem effect_register (collected : Collected registered builder) (added : SomeConverter κ) :
    ∃ later, (register added).effect builder = (verdict registered added, later) ∧
      Collected (registered ++ [added]) later ∧ later.options = builder.options ∧
      (added.1 ∈ registered.map (·.1) → later = builder) := by
  have registration := RegistryBuilder.effect_register added builder
  simp only [collected.mem_types_iff] at registration
  by_cases taken : added.1 ∈ registered.map (·.1)
  · rw [if_pos taken] at registration
    rw [verdict, if_pos taken]
    refine ⟨builder, registration, ⟨collected.distinct, fun k => ?_⟩, rfl, fun _ => rfl⟩
    -- For the type of the refused converter there is another one in front.
    rw [collected.find_eq, findConverter_append]
    cases found : findConverter k registered with
    | some converter => rfl
    | none =>
      have other : added.1 ≠ k := by
        rintro rfl
        exact findConverter_eq_none_iff.1 found taken
      simp [findConverter, other]
  · rw [if_neg taken] at registration
    rw [verdict, if_neg taken]
    have fresh : added.1 ∉ builder.converters.map (·.1) := by
      rwa [collected.mem_types_iff]
    refine ⟨_, registration, ⟨?_, fun k => ?_⟩, rfl, fun mem => absurd mem taken⟩
    · simpa using collected.distinct.concat fresh
    · rw [findConverter_append, findConverter_append, collected.find_eq]

end Collected

/-! ## A run of registrations -/

/-- What the first registration answers and leaves, followed by what the others do from there on. -/
theorem effect_registerEach_cons (added : SomeConverter κ) (pairs : List (SomeConverter κ))
    (builder : RegistryBuilder κ) :
    (registerEach (added :: pairs)).effect builder =
      ((((registerEach pairs).effect ((register added).effect builder).2).1).map
          (((register added).effect builder).1 :: ·),
        ((registerEach pairs).effect ((register added).effect builder).2).2) := by
  rw [registerEach, Action.effect_bind_of_ok (Action.effect_attempt ..)]
  cases rest : (registerEach pairs).effect ((register added).effect builder).2 with
  | mk result later =>
    cases result with
    | error e => exact Action.effect_bind_of_error rest
    | ok results => exact Action.effect_bind_of_ok rest

theorem effect_registerEach_append {before after : List (SomeConverter κ)}
    {builder middle later : RegistryBuilder κ} {first rest : List (Except RegistryError Unit)}
    (front : (registerEach before).effect builder = (.ok first, middle))
    (back : (registerEach after).effect middle = (.ok rest, later)) :
    (registerEach (before ++ after)).effect builder = (.ok (first ++ rest), later) := by
  induction before generalizing builder first with
  | nil =>
    obtain ⟨rfl, rfl⟩ : [] = first ∧ builder = middle := by simpa [registerEach] using front
    exact back
  | cons added before ih =>
    rw [effect_registerEach_cons] at front
    rcases Prod.mk.inj front with ⟨results, state⟩
    cases run : ((registerEach before).effect ((register added).effect builder).2).1 with
    | error e => simp [run, Except.map] at results
    | ok others =>
      have between : (registerEach before).effect ((register added).effect builder).2 =
          (.ok others, middle) := Prod.ext run state
      obtain rfl : ((register added).effect builder).1 :: others = first := by
        simpa [run, Except.map] using results
      rw [List.cons_append, effect_registerEach_cons, ih between]
      rfl

namespace Collected

variable {registered : List (SomeConverter κ)} {builder : RegistryBuilder κ}

/-- Registrations one after another are refused exactly where their type came before, and leave a
builder that has collected all of them. -/
theorem effect_registerEach (collected : Collected registered builder)
    (pairs : List (SomeConverter κ)) :
    ∃ results later, (registerEach pairs).effect builder = (.ok results, later) ∧
      results.length = pairs.length ∧
      (∀ before added after, pairs = before ++ added :: after →
        results[before.length]? = some (verdict (registered ++ before) added)) ∧
      Collected (registered ++ pairs) later ∧ later.options = builder.options := by
  induction pairs generalizing registered builder with
  | nil =>
    refine ⟨[], builder, rfl, rfl, ?_, by simpa using collected, rfl⟩
    intro before added after split
    simp at split
  | cons first pairs ih =>
    obtain ⟨middle, registration, collected, options, -⟩ := collected.effect_register first
    obtain ⟨results, later, run, length, verdicts, collected, options'⟩ := ih collected
    have whole : (registerEach (first :: pairs)).effect builder =
        (.ok (verdict registered first :: results), later) := by
      rw [effect_registerEach_cons, registration, run]
      rfl
    refine ⟨_, later, whole, by simp [length], ?_, by simpa using collected,
      options'.trans options⟩
    intro before added after split
    cases before with
    | nil =>
      obtain ⟨rfl, rfl⟩ : first = added ∧ pairs = after := by simpa using split
      simp
    | cons head before =>
      obtain ⟨rfl, rest⟩ : first = head ∧ pairs = before ++ added :: after := by simpa using split
      simpa using verdicts before added after rest

end Collected

/-! ## A run that ends with the first refusal -/

theorem effect_registerAll_append {before after : List (SomeConverter κ)}
    {builder middle : RegistryBuilder κ}
    (front : (registerAll before).effect builder = (.ok (), middle)) :
    (registerAll (before ++ after)).effect builder = (registerAll after).effect middle := by
  induction before generalizing builder with
  | nil =>
    obtain rfl : builder = middle := by simpa [registerAll] using front
    rfl
  | cons added before ih =>
    rcases first : (register added).effect builder with ⟨result, between⟩
    cases result with
    | error e =>
      rw [registerAll, Action.effect_bind_of_error first] at front
      simp at front
    | ok done =>
      rw [registerAll, Action.effect_bind_of_ok first] at front
      rw [List.cons_append, registerAll, Action.effect_bind_of_ok first]
      exact ih front

namespace Collected

variable {registered : List (SomeConverter κ)} {builder : RegistryBuilder κ}

/-- Nothing is refused as long as no type comes twice. -/
theorem effect_registerAll (collected : Collected registered builder)
    (pairs : List (SomeConverter κ)) (distinct : ((registered ++ pairs).map (·.1)).Nodup) :
    ∃ later, (registerAll pairs).effect builder = (.ok (), later) ∧
      Collected (registered ++ pairs) later ∧ later.options = builder.options := by
  induction pairs generalizing registered builder with
  | nil => exact ⟨builder, rfl, by simpa using collected, rfl⟩
  | cons first pairs ih =>
    have fresh : first.1 ∉ registered.map (·.1) := by
      intro mem
      have apart := (List.nodup_append.1 (by simpa using distinct)).2.2
      exact apart first.1 (by simpa using mem) first.1 (by simp) rfl
    obtain ⟨middle, registration, collected, options, -⟩ := collected.effect_register first
    rw [verdict, if_neg fresh] at registration
    obtain ⟨later, run, collected, options'⟩ := ih collected (by simpa using distinct)
    refine ⟨later, ?_, by simpa using collected, options'.trans options⟩
    rw [registerAll, Action.effect_bind_of_ok registration]
    exact run

end Collected

/-- The first type that comes twice ends the run. -/
theorem effect_registerAll_of_repeat {before : List (SomeConverter κ)} {added : SomeConverter κ}
    (after : List (SomeConverter κ)) (options : RegistryOptions)
    (distinct : (before.map (·.1)).Nodup) (taken : added.1 ∈ before.map (·.1)) :
    ∃ later, (registerAll (before ++ added :: after)).effect { options } =
      (.error (alreadyRegistered added.1), later) := by
  have start := Collected.nil (κ := κ) options
  obtain ⟨middle, front, collected, -⟩ := start.effect_registerAll before (by simpa using distinct)
  obtain ⟨later, registration, -⟩ := collected.effect_register added
  rw [verdict, if_pos (by simpa using taken)] at registration
  refine ⟨later, ?_⟩
  rw [effect_registerAll_append front, registerAll]
  exact Action.effect_bind_of_error registration

/-- A list in which some type comes twice has a first converter whose type came before. -/
theorem exists_first_repeat {pairs : List (SomeConverter κ)}
    (repeats : ¬(pairs.map (·.1)).Nodup) :
    ∃ before added after, pairs = before ++ added :: after ∧ (before.map (·.1)).Nodup ∧
      added.1 ∈ before.map (·.1) := by
  induction pairs using List.reverseRecOn with
  | nil => simp at repeats
  | append_singleton pairs last ih =>
    by_cases distinct : (pairs.map (·.1)).Nodup
    · refine ⟨pairs, last, [], rfl, distinct, ?_⟩
      by_contra fresh
      have all : ((pairs ++ [last]).map (·.1)).Nodup := by simpa using distinct.concat fresh
      exact repeats all
    · obtain ⟨before, added, after, rfl, front, taken⟩ := ih distinct
      exact ⟨before, added, after ++ [last], by simp, front, taken⟩

/-! ## The registry that is built -/

theorem effect_build (builder : RegistryBuilder κ) :
    build.effect builder =
      (.ok { converters := builder.converters, options := builder.options }, builder) := rfl

end RegistryBuilder

namespace Registry

open RegistryBuilder

/-- A registry converts every type with the first converter of a list for it, and has no converter
for a type that the list does not contain. -/
structure FirstWins (pairs : List (SomeConverter κ)) (registry : Registry κ) : Prop where
  converts : ∀ (before : List (SomeConverter κ)) (k : κ) (converter : Converter k)
      (after : List (SomeConverter κ)),
    pairs = before ++ ⟨k, converter⟩ :: after → k ∉ before.map (·.1) →
      (∀ value : Value k, registry.write k value =
        (converter.write value).mapError (.conversion (typeName k) .write)) ∧
      ∀ source : String, ((registry.read k source).run ()).result =
        if registry.options.blankIsAbsent && Text.isBlank source then .ok none
        else ((converter.read source).map some).mapError (.conversion (typeName k) .read)
  refuses : ∀ k ∉ pairs.map (·.1),
    (∀ value : Value k, registry.write k value = .error (.noConverter (typeName k))) ∧
      ∀ source : String,
        ((registry.read k source).run ()).result = .error (.noConverter (typeName k))
  size_eq : registry.size = (pairs.map (·.1)).toFinset.card
  types_nodup : registry.types.Nodup
  mem_types_iff : ∀ k : κ, k ∈ registry.types ↔ k ∈ pairs.map (·.1)
  has_agree : ∀ k : κ, registry.hasReadTarget k = registry.hasWriteSource k
  write_refused_iff : ∀ (k : κ) (value : Value k),
    (∃ type, registry.write k value = .error (.noConverter type)) ↔
      registry.hasWriteSource k = false
  read_refused_iff : ∀ (k : κ) (source : String),
    (∃ type, ((registry.read k source).run ()).result = .error (.noConverter type)) ↔
      registry.hasReadTarget k = false

/-- Two registries that cannot be told apart, except for the order of their types. -/
structure Agrees (a b : Registry κ) : Prop where
  options_eq : a.options = b.options
  write_eq : ∀ (k : κ) (value : Value k), a.write k value = b.write k value
  read_eq : ∀ (k : κ) (source : String), a.read k source = b.read k source
  hasReadTarget_eq : ∀ k : κ, a.hasReadTarget k = b.hasReadTarget k
  hasWriteSource_eq : ∀ k : κ, a.hasWriteSource k = b.hasWriteSource k
  size_eq : a.size = b.size
  types_perm : a.types.Perm b.types
  sorted_eq : ∀ name : κ → String,
    (a.types.map name).mergeSort = (b.types.map name).mergeSort
  describe_eq : a.describe = b.describe

section Answers

variable {registry : Registry κ} {pairs : List (SomeConverter κ)}

/-- A converter may fail in any way, but not for want of a converter. -/
theorem write_refused_iff (registry : Registry κ) (k : κ) (value : Value k) :
    (∃ type, registry.write k value = .error (.noConverter type)) ↔
      registry.hasWriteSource k = false := by
  rw [hasWriteSource]
  cases found : registry.find? k with
  | none => simp [write_of_none found]
  | some converter =>
    rw [write_of_some found]
    cases converter.write value <;> simp

theorem read_refused_iff (registry : Registry κ) (k : κ) (source : String) :
    (∃ type, ((registry.read k source).effect ()).1 = .error (.noConverter type)) ↔
      registry.hasReadTarget k = false := by
  rw [hasReadTarget]
  cases found : registry.find? k with
  | none => simp [effect_read_of_none found]
  | some converter =>
    rw [effect_read_of_some found]
    split
    next => simp
    next => cases converter.read source <;> simp [Except.map]

theorem firstWins_of_find_eq (distinct : registry.types.Nodup)
    (find_eq : ∀ k : κ, registry.find? k = findConverter k pairs) : FirstWins pairs registry := by
  have mem_types_iff : ∀ k : κ, k ∈ registry.types ↔ k ∈ pairs.map (·.1) := by
    intro k
    have found : k ∈ registry.types ↔ (registry.find? k).isSome = true :=
      isSome_findConverter_iff.symm
    rw [found, find_eq, isSome_findConverter_iff]
  have types_eq : registry.types.toFinset = (pairs.map (·.1)).toFinset := by
    ext k
    simpa using mem_types_iff k
  refine
    { converts := ?_
      refuses := ?_
      size_eq := ?_
      types_nodup := distinct
      mem_types_iff
      has_agree := fun _ => rfl
      write_refused_iff := registry.write_refused_iff
      read_refused_iff := registry.read_refused_iff }
  · rintro before k converter after rfl first
    have found : registry.find? k = some converter := by
      rw [find_eq, findConverter_of_first converter after first]
    exact ⟨write_of_some found, fun source => congrArg Prod.fst (effect_read_of_some found source)⟩
  · intro k absent
    have found : registry.find? k = none := by
      rw [find_eq, findConverter_eq_none_iff.2 absent]
    exact ⟨write_of_none found, fun source => congrArg Prod.fst (effect_read_of_none found source)⟩
  · rw [← types_eq, List.toFinset_card_of_nodup distinct]
    simp [types, size]

/-- Sorted names do not depend on the order that they come in. -/
theorem mergeSort_eq_of_perm {names others : List String} (perm : names.Perm others) :
    names.mergeSort = others.mergeSort := by
  have sorted (names : List String) :
      names.mergeSort.Pairwise fun a b => decide (a ≤ b) = true := by
    refine List.pairwise_mergeSort ?_ ?_ names
    · intro a b c first second
      simpa using String.le_trans (by simpa using first) (by simpa using second)
    · intro a b
      simpa using String.le_total a b
  refine List.Perm.eq_of_pairwise ?_ (sorted names) (sorted others) ?_
  · intro a b _ _ first second
    exact String.le_antisymm (by simpa using first) (by simpa using second)
  · exact (List.mergeSort_perm names _).trans (perm.trans (List.mergeSort_perm others _).symm)

theorem agrees_of_find_eq {a b : Registry κ} (options : a.options = b.options)
    (distinct : a.types.Nodup) (distinct' : b.types.Nodup)
    (find_eq : ∀ k : κ, a.find? k = b.find? k) : Agrees a b := by
  have types_perm : a.types.Perm b.types := by
    refine (List.perm_ext_iff_of_nodup distinct distinct').2 fun k => ?_
    have inA : k ∈ a.types ↔ (a.find? k).isSome = true := isSome_findConverter_iff.symm
    have inB : k ∈ b.types ↔ (b.find? k).isSome = true := isSome_findConverter_iff.symm
    rw [inA, inB, find_eq]
  have names : a.typeNames = b.typeNames := mergeSort_eq_of_perm (types_perm.map typeName)
  have describe_eq : a.describe = b.describe := by
    unfold describe
    rw [names, options]
  exact
    { options_eq := options
      write_eq := fun k value => by rw [write, write, find_eq]
      read_eq := fun k source => by rw [read, read, find_eq, options]
      hasReadTarget_eq := fun k => by rw [hasReadTarget, hasReadTarget, find_eq]
      hasWriteSource_eq := fun k => by rw [hasWriteSource, hasWriteSource, find_eq]
      size_eq := by simpa [types, size] using types_perm.length_eq
      types_perm
      sorted_eq := fun name => mergeSort_eq_of_perm (types_perm.map name)
      describe_eq }

end Answers

/-- A builder gives the registry in which the first registrations win. -/
theorem firstWins_of_collected {pairs : List (SomeConverter κ)} {builder : RegistryBuilder κ}
    (collected : Collected pairs builder) :
    FirstWins pairs { converters := builder.converters, options := builder.options } :=
  firstWins_of_find_eq collected.distinct collected.find_eq

theorem agrees_of_collected {pairs others : List (SomeConverter κ)} {a b : RegistryBuilder κ}
    (collected : Collected pairs a) (collected' : Collected others b)
    (options : a.options = b.options) (perm : pairs.Perm others)
    (distinct : (pairs.map (·.1)).Nodup) :
    Agrees { converters := a.converters, options := a.options }
      { converters := b.converters, options := b.options } := by
  refine agrees_of_find_eq options collected.distinct collected'.distinct fun k => ?_
  have first : findConverter k a.converters = findConverter k pairs := collected.find_eq k
  have second : findConverter k b.converters = findConverter k others := collected'.find_eq k
  exact first.trans ((findConverter_perm perm distinct k).trans second.symm)

theorem effect_ofConverters_of_ok {pairs : List (SomeConverter κ)} {later : RegistryBuilder κ}
    (run : (registerAll pairs).effect {} = (.ok (), later)) :
    (ofConverters pairs).effect () =
      (.ok { converters := later.converters, options := later.options }, ()) := by
  have built : (registerAll pairs >>= fun _ => build).effect {} =
      (.ok { converters := later.converters, options := later.options }, later) := by
    rw [Action.effect_bind_of_ok run, effect_build]
  exact Action.effect_bind_of_ok (Action.effect_inside_of_ok built ())

theorem effect_ofConverters_of_error {pairs : List (SomeConverter κ)} {later : RegistryBuilder κ}
    {e : RegistryError} (run : (registerAll pairs).effect {} = (.error e, later)) :
    (ofConverters pairs).effect () = (.error e, ()) := by
  have stopped : (registerAll pairs >>= fun _ => build).effect {} = (.error e, later) :=
    Action.effect_bind_of_error run
  exact Action.effect_bind_of_error (Action.effect_inside_of_error stopped ())

/-- A list whose types are distinct gives a registry. -/
theorem effect_ofConverters_of_nodup {pairs : List (SomeConverter κ)}
    (distinct : (pairs.map (·.1)).Nodup) :
    ∃ builder, (ofConverters pairs).effect () =
        (.ok { converters := builder.converters, options := {} }, ()) ∧
      Collected pairs builder ∧ builder.options = {} := by
  have start := Collected.nil (κ := κ) {}
  obtain ⟨builder, run, collected, options⟩ :=
    start.effect_registerAll pairs (by simpa using distinct)
  have built := effect_ofConverters_of_ok run
  rw [options] at built
  exact ⟨builder, built, by simpa using collected, options⟩

theorem effect_ofConverters_of_repeat {before after : List (SomeConverter κ)}
    {added : SomeConverter κ} (distinct : (before.map (·.1)).Nodup)
    (taken : added.1 ∈ before.map (·.1)) :
    (ofConverters (before ++ added :: after)).effect () =
      (.error (alreadyRegistered added.1), ()) := by
  obtain ⟨later, run⟩ := effect_registerAll_of_repeat after {} distinct taken
  exact effect_ofConverters_of_error run

end Registry

namespace RegistryBuilder

open Registry

/-- A refused registration is as if it had not been tried: the others go as they would have gone
without it, and leave the same builder. -/
theorem effect_registerEach_without_refused {before after : List (SomeConverter κ)}
    {added : SomeConverter κ} (options : RegistryOptions) (taken : added.1 ∈ before.map (·.1)) :
    ∃ first rest later, first.length = before.length ∧
      (registerEach (before ++ after)).effect { options } = (.ok (first ++ rest), later) ∧
      (registerEach (before ++ added :: after)).effect { options } =
        (.ok (first ++ .error (alreadyRegistered added.1) :: rest), later) := by
  have start := Collected.nil (κ := κ) options
  obtain ⟨first, middle, front, length, -, collected, -⟩ := start.effect_registerEach before
  obtain ⟨rest, later, back, -⟩ := collected.effect_registerEach after
  obtain ⟨same, registration, -, -, unchanged⟩ := collected.effect_register added
  obtain rfl : same = middle := unchanged (by simpa using taken)
  rw [verdict, if_pos (by simpa using taken)] at registration
  refine ⟨first, rest, later, length, effect_registerEach_append front back,
    effect_registerEach_append front ?_⟩
  rw [effect_registerEach_cons, registration, back]
  rfl

/-- Of converters that are registered one after another, the first one for every type wins. A
registration is refused exactly if its type came before, and then it is as if it had not been tried;
the registry that is built converts by the first ones. Where a refusal ends the run, a registry is
made exactly if the types are distinct, and otherwise the first type that comes twice is named. With
distinct types, the order of the list does not count. -/
theorem first_registration_wins (options : RegistryOptions) (pairs : List (SomeConverter κ)) :
    (∃ results builder registry,
      (registerEach pairs).effect { options } = (.ok results, builder) ∧
        build.effect builder = (.ok registry, builder) ∧
        results.length = pairs.length ∧
        (∀ before added after, pairs = before ++ added :: after →
          results[before.length]? = some
            (if added.1 ∈ before.map (·.1) then .error (alreadyRegistered added.1) else .ok ())) ∧
        registry.options = options ∧ registry.FirstWins pairs) ∧
    (∀ before added after, pairs = before ++ added :: after → added.1 ∈ before.map (·.1) →
      ∃ first rest builder, first.length = before.length ∧
        (registerEach (before ++ after)).effect { options } = (.ok (first ++ rest), builder) ∧
        (registerEach pairs).effect { options } =
          (.ok (first ++ .error (alreadyRegistered added.1) :: rest), builder)) ∧
    ((pairs.map (·.1)).Nodup →
      ∃ registry, (ofConverters pairs).effect () = (.ok registry, ()) ∧
        registry.options = {} ∧ registry.FirstWins pairs) ∧
    (¬(pairs.map (·.1)).Nodup →
      ∃ before added after, pairs = before ++ added :: after ∧ (before.map (·.1)).Nodup ∧
        added.1 ∈ before.map (·.1) ∧
        (ofConverters pairs).effect () = (.error (alreadyRegistered added.1), ())) ∧
    (∀ others, pairs.Perm others → (pairs.map (·.1)).Nodup →
      (∃ a b, (ofConverters pairs).effect () = (.ok a, ()) ∧
        (ofConverters others).effect () = (.ok b, ()) ∧ a.Agrees b) ∧
      ∃ results results' builder builder' a b,
        (registerEach pairs).effect { options } = (.ok results, builder) ∧
          (registerEach others).effect { options } = (.ok results', builder') ∧
          build.effect builder = (.ok a, builder) ∧ build.effect builder' = (.ok b, builder') ∧
          a.Agrees b) := by
  have start := Collected.nil (κ := κ) options
  obtain ⟨results, builder, run, length, verdicts, collected, kept⟩ :=
    start.effect_registerEach pairs
  rw [List.nil_append] at collected
  refine ⟨?_, ?_, ?_, ?_, ?_⟩
  · refine ⟨results, builder, _, run, effect_build builder, length, ?_, kept,
      firstWins_of_collected collected⟩
    intro before added after split
    exact verdicts before added after split
  · rintro before added after rfl taken
    exact effect_registerEach_without_refused options taken
  · intro distinct
    obtain ⟨builder, made, collected, usual⟩ := effect_ofConverters_of_nodup distinct
    exact ⟨_, made, rfl, usual ▸ firstWins_of_collected collected⟩
  · intro repeats
    obtain ⟨before, added, after, rfl, distinct, taken⟩ := exists_first_repeat repeats
    exact ⟨before, added, after, rfl, distinct, taken, effect_ofConverters_of_repeat distinct taken⟩
  · intro others perm distinct
    have distinct' : (others.map (·.1)).Nodup := (perm.map _).nodup_iff.1 distinct
    constructor
    · obtain ⟨a, made, collected, usual⟩ := effect_ofConverters_of_nodup distinct
      obtain ⟨b, made', collected', usual'⟩ := effect_ofConverters_of_nodup distinct'
      have agree := agrees_of_collected collected collected' (usual.trans usual'.symm) perm distinct
      rw [usual, usual'] at agree
      exact ⟨_, _, made, made', agree⟩
    · obtain ⟨results', builder', run', -, -, collected', kept'⟩ := start.effect_registerEach others
      rw [List.nil_append] at collected'
      exact ⟨results, results', builder, builder', _, _, run, run', effect_build builder,
        effect_build builder',
        agrees_of_collected collected collected' (kept.trans kept'.symm) perm distinct⟩

/-- A second converter for persons is refused and the first stays, also where the list is turned
around as far as its types are distinct. -/
theorem first_registration_wins_second_refused :
    let fixed : SomeConverter FieldType := ⟨.person, Person.fixedConverter⟩
    let plain : SomeConverter FieldType := ⟨.string, TextConverter.plain⟩
    let late : SomeConverter FieldType := ⟨.person, Person.converter⟩
    let homer : Person := ⟨"Homer", "Simpson"⟩
    late.1 ∈ [fixed, plain].map (·.1) ∧ ¬([fixed, plain, late].map (·.1)).Nodup ∧
      (∃ results builder registry,
        (registerEach [fixed, plain, late]).effect {} = (.ok results, builder) ∧
          build.effect builder = (.ok registry, builder) ∧
          results[2]? = some (.error (alreadyRegistered late.1)) ∧
          registry.write FieldType.person homer = .ok "fixed") ∧
      (∃ first rest builder, first.length = 2 ∧
        (registerEach [fixed, plain]).effect {} = (.ok (first ++ rest), builder) ∧
        (registerEach [fixed, plain, late]).effect {} =
          (.ok (first ++ .error (alreadyRegistered late.1) :: rest), builder)) ∧
      (∃ added : SomeConverter FieldType, (ofConverters [fixed, plain, late]).effect () =
        (.error (alreadyRegistered added.1), ())) ∧
      ([fixed, plain].map (·.1)).Nodup ∧ [fixed, plain].Perm [plain, fixed] ∧
      ∃ a b, (ofConverters [fixed, plain]).effect () = (.ok a, ()) ∧
        (ofConverters [plain, fixed]).effect () = (.ok b, ()) ∧ a.Agrees b := by
  intro fixed plain late homer
  have taken : late.1 ∈ [fixed, plain].map (·.1) := by decide
  have repeats : ¬([fixed, plain, late].map (·.1)).Nodup := by decide
  have distinct : ([fixed, plain].map (·.1)).Nodup := by decide
  have perm : [fixed, plain].Perm [plain, fixed] := List.Perm.swap plain fixed []
  obtain ⟨⟨results, builder, registry, run, built, -, verdicts, -, wins⟩, without, -, stops, -⟩ :=
    first_registration_wins {} [fixed, plain, late]
  obtain ⟨-, -, -, -, turned⟩ := first_registration_wins {} [fixed, plain]
  have refused := verdicts [fixed, plain] late [] rfl
  rw [if_pos taken] at refused
  have converts := wins.converts [] .person Person.fixedConverter [plain, late] rfl (by simp)
  have written := converts.1 homer
  obtain ⟨before, added, after, -, -, -, stopped⟩ := stops repeats
  exact ⟨taken, repeats, ⟨results, builder, registry, run, built, refused, written⟩,
    without [fixed, plain] late [] rfl taken, ⟨added, stopped⟩, distinct, perm,
    (turned [plain, fixed] perm distinct).1⟩

end RegistryBuilder

end Cellwise

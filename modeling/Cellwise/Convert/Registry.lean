import Cellwise.Action
import Cellwise.Text.Characters
import Cellwise.Convert.Converter
import Cellwise.Convert.Options

/-!
# The registry of converters

A registry holds at most one converter for every field type. It is put together once by a
`RegistryBuilder`, where the first converter of a type wins and a second one is refused, and does
not change afterwards.

* `Registry.read` and `Registry.write` convert with the converter of a type, or say that it has
  none. While blank sources are absent, a blank source reads as no value without a call of the
  reader.
-/

namespace Cellwise

/-- A converter together with the type that it is for. -/
abbrev SomeConverter (κ : Type) [FieldFamily κ] := (k : κ) × Converter k

/-- The converters for field types, each under its type. -/
structure Registry (κ : Type) [FieldFamily κ] where
  converters : List (SomeConverter κ)
  options : RegistryOptions

/-- A registry that is being put together. -/
structure RegistryBuilder (κ : Type) [FieldFamily κ] where
  converters : List (SomeConverter κ) := []
  options : RegistryOptions := {}

variable {κ σ : Type} [FieldFamily κ]

/-- The first converter for a type. -/
def findConverter (k : κ) : List (SomeConverter κ) → Option (Converter k)
  | [] => none
  | ⟨other, converter⟩ :: rest =>
    if h : other = k then some (h ▸ converter) else findConverter k rest

/-- Where registries note what they do. -/
def registryTarget : String := "typeconv_registry::registry"

namespace RegistryBuilder

/-- Adds a converter, unless its type has one already. -/
def register (added : SomeConverter κ) : Action (RegistryBuilder κ) RegistryError Unit := do
  let builder ← Action.get
  let type := typeName added.1
  match findConverter added.1 builder.converters with
  | some _ =>
    -- The converter that came first stays.
    Action.fail (.configuration ("converter for " ++ type ++ " is already registered"))
  | none =>
    Action.log .debug registryTarget "registered converter pair" [("target_type", .quoted type)]
    Action.modify fun builder => { builder with converters := builder.converters ++ [added] }

/-- The registry with the converters and options collected so far. -/
def build : Action (RegistryBuilder κ) RegistryError (Registry κ) := do
  let builder ← Action.get
  Action.log .info registryTarget "conversion registry built"
    [("converters", .number builder.converters.length),
      ("blank_source_is_absent", .flag builder.options.blankIsAbsent)]
  pure { converters := builder.converters, options := builder.options }

/-- Adds converters one after another, up to the first that is refused. -/
def registerAll : List (SomeConverter κ) → Action (RegistryBuilder κ) RegistryError Unit
  | [] => pure ()
  | added :: rest => do
    register added
    registerAll rest

/-- Adds converters one after another and tells for each whether it was accepted; one that is
refused does not keep the next from being tried. -/
def registerEach : List (SomeConverter κ) →
    Action (RegistryBuilder κ) RegistryError (List (Except RegistryError Unit))
  | [] => pure []
  | added :: rest => do
    let result ← Action.attempt (register added)
    let results ← registerEach rest
    pure (result :: results)

end RegistryBuilder

namespace Registry

/-- A registry without converters. -/
def empty : Report RegistryError (Registry κ) := do
  let (registry, _) ← Action.inside {} RegistryBuilder.build
  pure registry

/-- The registry of a list of converters, which have to be for different types. -/
def ofConverters (converters : List (SomeConverter κ)) : Report RegistryError (Registry κ) := do
  let (registry, _) ← Action.inside {} do
    RegistryBuilder.registerAll converters
    RegistryBuilder.build
  pure registry

/-- The converter for a type. -/
def find? (registry : Registry κ) (k : κ) : Option (Converter k) :=
  findConverter k registry.converters

/-- Is there a converter that reads values of the type? -/
def hasReadTarget (registry : Registry κ) (k : κ) : Bool := (registry.find? k).isSome

/-- Is there a converter that writes values of the type? -/
def hasWriteSource (registry : Registry κ) (k : κ) : Bool := (registry.find? k).isSome

/-- The number of converters. -/
def size (registry : Registry κ) : Nat := registry.converters.length

/-- The types that have a converter, in the order in which they were registered. -/
def types (registry : Registry κ) : List κ := registry.converters.map (·.1)

/-- The full names of the types that have a converter, in order. -/
def typeNames (registry : Registry κ) : List String :=
  (registry.types.map typeName).mergeSort

/-- Writes a value with the converter of its type. -/
def write (registry : Registry κ) (k : κ) (value : Value k) : Except RegistryError String :=
  match registry.find? k with
  | none => .error (.noConverter (typeName k))
  | some converter => (converter.write value).mapError (.conversion (typeName k) .write)

/-- Reads a stored text with the converter of a type. -/
def read (registry : Registry κ) (k : κ) (source : String) :
    Report RegistryError (Option (Value k)) :=
  match registry.find? k with
  | none => Action.fail (.noConverter (typeName k))
  | some converter =>
    if registry.options.blankIsAbsent && Text.isBlank source then do
      -- The reader never sees a source that counts as absent.
      Action.log .debug registryTarget "blank source read as absent"
        [("target_type", .quoted (typeName k))]
      pure none
    else do
      Action.emit (.readerCall (typeName k) source)
      let value ← Action.ofExcept
        ((converter.read source).mapError (.conversion (typeName k) .read))
      pure (some value)

/-- How a registry shows itself. -/
def describe (registry : Registry κ) : String :=
  "ConversionRegistry \x7b types: [" ++
    ", ".intercalate (registry.typeNames.map Text.quoted) ++
    "], config: ConversionConfig \x7b blank_source_is_absent: " ++
    (if registry.options.blankIsAbsent then "true" else "false") ++ " \x7d \x7d"

end Registry

end Cellwise

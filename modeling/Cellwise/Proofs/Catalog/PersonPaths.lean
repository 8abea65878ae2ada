import Cellwise.Catalog.FieldType
import Cellwise.Proofs.Catalog.JsonFields
import Cellwise.Proofs.Entity.DefaultForm

/-!
# Persons with and without a converter

The JSON converter lists the names of a person in the order of declaration, and the default form in
the order of the alphabet; this is the same order. So a registry with the JSON converter stores
persons as one without it does, and either loads what the other has stored. They differ in how they
fail, and in blank texts, which only a converter reads as absent.
-/

namespace Cellwise.Person

open Json Json.Reader

/-! ## The default form of a person -/

theorem canonical_toJson (person : Person) : person.toJson.Canonical := by
  have ordered : "firstname" < "lastname" := by decide
  exact ⟨List.pairwise_pair.2 ordered, trivial, trivial, trivial⟩

theorem hasDefaultText (person : Person) :
    HasDefaultText FieldType.person person person.toJson.render := by
  refine .of_faithful (faithful_toJson person) (canonical_toJson person) rfl ?_
  simp [depth_toJson, maxDepth]

theorem isWrittenBare_eq (person : Person) : isWrittenBare FieldType.person person = false :=
  isWrittenBare_of_encode (k := FieldType.person) (faithful_toJson person).encoded

theorem readBare_eq_error (stored : String) :
    readBare FieldType.person stored =
      .error (.mismatch (.invalidType (.string stored) "struct Person")) :=
  readBare_eq (answers_record_string stored recordForm maxDepth)

theorem parse_blank {stored : String} (blank : Text.isBlank stored = true) :
    ∃ fault, (parse stored : Except Fault Person) = .error fault := by
  rcases record_blank (List.all_eq_true.1 blank) recordForm maxDepth with ⟨fault, failed⟩
  refine ⟨fault, ?_⟩
  have failed : (Form.read maxDepth : Reader Person) stored.toList = .error fault := failed
  rw [parse, Reader.whole, failed]
  rfl

/-! ## Two paths -/

/-- The path of persons through the JSON converter. -/
abbrev jsonPath (options : RegistryOptions) : Path FieldType.person :=
  .custom options (.json FieldType.person)

/-- The path of persons without a converter. -/
abbrev barePath (column : String) : Path FieldType.person :=
  .default column FieldType.person

variable (options : RegistryOptions) (column : String)

theorem jsonPath_write (person : Person) :
    (jsonPath options).write person = .ok person.toJson.render := by
  simp only [Path.custom, Converter.json, (faithful_toJson person).print_eq]
  rfl

theorem barePath_write (person : Person) :
    (barePath column).write person = .ok person.toJson.render :=
  Path.default_write (hasDefaultText person).written column

/-- Why a text that is no person has no default form. -/
def refusal (column stored : String) : MappingError :=
  .default column (Mismatch.invalidType (.string stored) "struct Person").message

variable {stored : String}

theorem read_of_parse {person : Person} (parsed : parse stored = .ok person)
    (seen : (options.blankIsAbsent && Text.isBlank stored) = false) :
    (jsonPath options).read stored = .ok (some person) ∧
      (barePath column).read stored = .ok (some person) := by
  have read : readDefault FieldType.person stored = .ok person :=
    readDefault_of_parse parsed (isWrittenBare_eq person)
  refine ⟨?_, Path.default_read read column⟩
  simp only [Path.custom, seen, Converter.json]
  rw [parsed]
  rfl

theorem barePath_read_of_error {fault : Fault}
    (failed : (parse stored : Except Fault Person) = .error fault) :
    (barePath column).read stored = .error (refusal column stored) := by
  have read := readDefault_of_parse_error (k := FieldType.person) failed
  simp only [Path.default, read, readBare_eq_error]
  rfl

theorem jsonPath_read_of_error {fault : Fault}
    (failed : (parse stored : Except Fault Person) = .error fault)
    (seen : (options.blankIsAbsent && Text.isBlank stored) = false) :
    (jsonPath options).read stored =
      .error (.conversion (.conversion (typeName FieldType.person) .read (.json fault))) := by
  simp only [Path.custom, seen, Converter.json]
  rw [failed]
  rfl

theorem jsonPath_read_of_absent
    (absent : (options.blankIsAbsent && Text.isBlank stored) = true) :
    (jsonPath options).read stored = .ok none := by
  simp only [Path.custom, absent, if_true]

/-! ## Two registries -/

variable {registry plain : Registry FieldType}

/-- The JSON converter for persons may be registered later on: it stores what is stored without it,
and loads what was stored before. Every other text that is no person is refused on either side,
except that a blank one is absent where the converter is asked to take it so. -/
theorem json_converter_agrees_with_default
    (registered : registry.find? .person = some (.json FieldType.person))
    (unregistered : plain.find? .person = none) (column : String) :
    (∀ person : Person,
      encodeField registry column .person person = .ok person.toJson.render ∧
      encodeField plain column .person person = .ok person.toJson.render) ∧
    (∀ (one : Option Person) (people : List Person) (row : Row),
      ∀ call ∈ [WriteCall.scalar column FieldType.person one, .list column .person people,
        .set column .person people],
        ∃ later, (call.perform registry).effect row = (.ok (), later) ∧
          (call.perform plain).effect row = (.ok (), later)) ∧
    ∀ stored : String,
      let custom := (decodeField registry column FieldType.person stored).effect ()
      let bare := (decodeField plain column FieldType.person stored).effect ()
      if registry.options.blankIsAbsent && Text.isBlank stored then
        custom = (.ok none, ()) ∧ bare = (.error (refusal column stored), ())
      else
        (∃ person : Person, custom = (.ok (some person), ()) ∧ bare = (.ok (some person), ())) ∨
        ∃ fault : Fault,
          custom = (.error
            (.conversion (.conversion (typeName FieldType.person) .read (.json fault))), ()) ∧
          bare = (.error (refusal column stored), ()) := by
  refine ⟨?texts, ?cells, ?loads⟩
  case texts =>
    intro person
    rw [encodeField_of_some registered, encodeField_of_none unregistered]
    exact ⟨jsonPath_write _ person, barePath_write column person⟩
  case cells =>
    exact (takes_custom registered column).perform_alike (takes_default unregistered column)
      (jsonPath_write _) (barePath_write column)
  case loads =>
    intro stored
    simp only [effect_decodeField_of_some registered, effect_decodeField_of_none unregistered]
    -- Blank texts come first, where they are absent: they are given to no reader.
    split
    next absent =>
      have blank : Text.isBlank stored = true := (Bool.and_eq_true_iff.1 absent).2
      rcases parse_blank blank with ⟨fault, failed⟩
      rw [jsonPath_read_of_absent _ absent, barePath_read_of_error column failed]
      exact ⟨rfl, rfl⟩
    next seen =>
      have seen := Bool.eq_false_iff.2 seen
      cases parsed : (parse stored : Except Fault Person) with
      | ok person =>
        rcases read_of_parse _ column parsed seen with ⟨custom, bare⟩
        rw [custom, bare]
        exact .inl ⟨person, rfl, rfl⟩
      | error fault =>
        -- What is no JSON of a person is no bare string that is one either.
        rw [jsonPath_read_of_error _ parsed seen, barePath_read_of_error column parsed]
        exact .inr ⟨fault, rfl, rfl⟩

/-- A person is stored in one way by both, and a blank text is refused by one of them only. -/
theorem json_converter_agrees_with_default_blank :
    let registry : Registry FieldType :=
      { converters := [⟨.person, .json FieldType.person⟩], options := { blankIsAbsent := true } }
    let plain : Registry FieldType := { converters := [], options := { blankIsAbsent := true } }
    let homer : Person := { firstname := "Homer", lastname := "Simpson" }
    let text := "\x7b\"firstname\":\"Homer\",\"lastname\":\"Simpson\"\x7d"
    registry.find? .person = some (.json FieldType.person) ∧ plain.find? .person = none ∧
      encodeField registry "head" .person homer = .ok text ∧
      encodeField plain "head" .person homer = .ok text ∧
      (decodeField registry "head" FieldType.person " ").effect () = (.ok none, ()) ∧
      (decodeField plain "head" FieldType.person " ").effect () =
        (.error (refusal "head" " "), ()) := by
  intro registry plain homer text
  have registered : registry.find? .person = some (.json FieldType.person) := rfl
  have unregistered : plain.find? .person = none := rfl
  have rendered : homer.toJson.render = text := by decide
  rcases json_converter_agrees_with_default registered unregistered "head" with ⟨texts, -, loads⟩
  rcases texts homer with ⟨custom, bare⟩
  rw [rendered] at custom bare
  exact ⟨registered, unregistered, custom, bare, loads " "⟩

end Cellwise.Person

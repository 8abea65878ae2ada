import Cellwise.Catalog.FieldType
import Cellwise.Convert.Registry
import Cellwise.Proofs.Json.FormRoundTrip

/-!
# Fields kept as JSON text

Texts, whole numbers, persons, and JSON values without floats survive being written as JSON text:
each is told by its text, and reading gives it back. Only JSON values that nest more deeply than a
reader allows are written but not read.

A registry with the JSON converter writes a value as its JSON text, which is never blank, and so
reads it in the same way whether or not blank sources are absent.
-/

namespace Cellwise

open Json Json.Reader

/-! ## Types registered with the JSON converter -/

namespace Registry

variable {κ : Type} [FieldFamily κ] {registry : Registry κ} {k : κ} {value : Value k} {json : Json}

theorem write_json (registered : registry.find? k = some (.json k))
    (faithful : Form.Faithful value json) : registry.write k value = .ok json.render := by
  simp only [write, registered, Converter.json, faithful.print_eq]
  rfl

/-- The failure of a JSON converter to read. -/
def readFailure (k : κ) (fault : Fault) : RegistryError :=
  .conversion (typeName k) .read (.json fault)

theorem run_read_json (registered : registry.find? k = some (.json k))
    (faithful : Form.Faithful value json) :
    (registry.read k json.render).run () =
      ⟨((within maxDepth json (some value)).mapError (readFailure k)), (),
        [.readerCall (typeName k) json.render]⟩ := by
  have solid : Text.isBlank json.render = false := isBlank_render faithful.whole
  have parsed : parse json.render = within maxDepth json value := faithful.parse_render
  -- The text is not blank, and so the option for blank sources is not asked for.
  simp only [read, registered, Converter.json, parsed, solid, Bool.and_false, Bool.false_eq_true,
    if_false]
  by_cases shallow : json.depth ≤ maxDepth
  · rw [within_of_le shallow, within_of_le shallow]
    rfl
  · rw [within_of_lt (Nat.not_le.1 shallow), within_of_lt (Nat.not_le.1 shallow)]
    rfl

end Registry

/-! ## Persons -/

namespace Person

theorem depth_toJson (person : Person) : person.toJson.depth = 1 := by
  simp [toJson, depth, depthMembers]

theorem faithful_toJson (person : Person) : Form.Faithful person person.toJson where
  encoded := rfl
  whole := rfl
  answers bound := by
    cases bound with
    | zero =>
      rw [within_of_lt (by simp [depth_toJson])]
      exact answers_record_zero
    | succ bound =>
      rw [within_of_le (by simp [depth_toJson])]
      -- The members come in the order of declaration, each filling a part that is still empty.
      have reads (s : String) : Reads (Form.read bound) (Json.string s).chars s :=
        (faithful_string s).reads (Nat.zero_le bound)
      have first : Reads (recordForm.member bound (none, none))
          (memberChars ("firstname", .string person.firstname)) (some person.firstname, none) :=
        answers_member rfl rfl (answers_ofOption (reads person.firstname))
      have last : Reads (recordForm.member bound (some person.firstname, none))
          (memberChars ("lastname", .string person.lastname))
          (some person.firstname, some person.lastname) :=
        answers_member rfl rfl (answers_ofOption (reads person.lastname))
      exact reads_record (.cons rfl first (.cons rfl last (.nil _))) rfl

end Person

/-! ## Fields -/

namespace FieldType

/-- The values that are told by their JSON text. -/
def Lossless : (type : FieldType) → Value type → Prop
  | string, _ | i64, _ | person, _ | optPerson, _ | vecPerson, _ => True
  | json, value => value.val.wholeNumbers = true
  | _, _ => False

/-- Do arrays and objects nest in the value more deeply than readers allow? -/
def nestsTooDeeply : (type : FieldType) → Value type → Bool
  | json, value => 128 ≤ value.val.depth
  | _, _ => false

theorem depth_persons_le (people : List Person) :
    (Json.array (people.map Person.toJson)).depth ≤ maxDepth := by
  rw [maxDepth, depth_array_le_succ]
  intro item mem
  rcases List.mem_map.1 mem with ⟨person, -, rfl⟩
  simp [Person.depth_toJson]

theorem Lossless.exists_faithful {type : FieldType} {value : Value type}
    (lossless : type.Lossless value) :
    ∃ json, Form.Faithful value json ∧
      (type.nestsTooDeeply value = true ↔ maxDepth < json.depth) := by
  cases type with
  | string => exact ⟨_, faithful_string value, by simp [nestsTooDeeply, depth]⟩
  | i64 => exact ⟨_, faithful_int64 value, by simp [nestsTooDeeply, depth]⟩
  | person =>
    refine ⟨_, Person.faithful_toJson value, ?_⟩
    simp [nestsTooDeeply, Person.depth_toJson, maxDepth]
  | optPerson =>
    cases value with
    | none => exact ⟨_, faithful_none, by simp [nestsTooDeeply, depth]⟩
    | some person =>
      refine ⟨_, (Person.faithful_toJson person).some (by simp [Person.toJson]), ?_⟩
      simp [nestsTooDeeply, Person.depth_toJson, maxDepth]
  | vecPerson =>
    refine ⟨_, faithful_list fun person _ => Person.faithful_toJson person, ?_⟩
    simpa [nestsTooDeeply] using depth_persons_le value
  | json => exact ⟨_, faithful_canonicalJson lossless, by simp [nestsTooDeeply, maxDepth]; omega⟩
  | _ => exact lossless.elim

/-- A type with the JSON converter loses nothing, whether or not blank sources are absent: every
value is written, its text is not blank and belongs to no other value, and reading the text gives
the value back unless it nests too deeply. -/
theorem json_converter_lossless (registry : Registry FieldType) (type : FieldType)
    (registered : registry.find? type = some (.json type)) (value : Value type)
    (lossless : type.Lossless value) :
    ∃ text, registry.write type value = .ok text ∧ Text.isBlank text = false ∧
      (∀ other, type.Lossless other → registry.write type other = .ok text → other = value) ∧
      ((registry.read type text).run ()).result =
        if type.nestsTooDeeply value then
          .error (.conversion (typeName type) .read (.json .malformed))
        else .ok (some value) := by
  rcases lossless.exists_faithful with ⟨json, faithful, deep⟩
  refine ⟨json.render, Registry.write_json registered faithful, isBlank_render faithful.whole,
    ?_, ?_⟩
  · -- A text that two values have is read as either of them.
    intro other lossless' written
    rcases lossless'.exists_faithful with ⟨json', faithful', -⟩
    rw [Registry.write_json registered faithful'] at written
    exact faithful'.render_injective faithful (Except.ok.inj written)
  · rw [Registry.run_read_json registered faithful]
    by_cases too_deep : type.nestsTooDeeply value = true
    · rw [if_pos too_deep, within_of_lt (deep.1 too_deep)]
      rfl
    · rw [if_neg too_deep, within_of_le (Nat.not_lt.1 (mt deep.2 too_deep))]
      rfl

/-- A blank text is kept where blank sources are absent: its JSON text has quotes. -/
theorem json_converter_lossless_blank :
    let registry : Registry FieldType :=
      { converters := [⟨string, .json string⟩], options := { blankIsAbsent := true } }
    registry.find? string = some (.json string) ∧ string.Lossless " \n" ∧
      ∃ text, registry.write string " \n" = .ok text ∧ Text.isBlank text = false ∧
        ((registry.read string text).run ()).result = .ok (some " \n") := by
  intro registry
  have registered : registry.find? string = some (.json string) := rfl
  have lossless : string.Lossless " \n" := trivial
  obtain ⟨text, written, solid, -, read⟩ :=
    json_converter_lossless registry string registered " \n" lossless
  exact ⟨registered, lossless, text, written, solid, read⟩

end FieldType

end Cellwise

import Cellwise.Proofs.Catalog.PersonPaths
import Cellwise.Proofs.Json.Depth

/-!
# Texts that settle

Loading a text and saving what was loaded may change the text: a person comes back as an object with
its names in order, and a JSON value without blanks and without repeated members. This happens
once. What was loaded is written in a way that is loaded as the same value, and so neither the value
nor the text change any more.

* `FieldType.encode_of_readBare` is about texts that are read as bare strings.
* `FieldType.exists_faithful_of_parse` is about all others: what is read as JSON is told by its text
  and does not nest too deeply to be read again.
-/

namespace Cellwise.FieldType

open Json Json.Reader

variable {type : FieldType} {value : Value type} {stored : String}

/-- The types whose texts settle. -/
def settles : FieldType → Bool
  | string | u32 | i64 | bool | char | optString | person | json => true
  | _ => false

/-- The types that have a value for every text. -/
def readsAll : FieldType → Bool
  | string | optString | json => true
  | _ => false

/-! ## Bare strings -/

theorem readBare_string (stored : String) : readBare string stored = .ok stored :=
  readBare_of_faithful (k := string) (faithful_string stored)

theorem readBare_optString (stored : String) : readBare optString stored = .ok (some stored) :=
  readBare_of_faithful (k := optString) ((faithful_string stored).some (by simp))

theorem readBare_json (stored : String) : readBare json stored = .ok ⟨.string stored, trivial⟩ :=
  readBare_of_faithful (k := json) (faithful_canonicalJson rfl)

theorem exists_readBare (reads : type.readsAll = true) (stored : String) :
    ∃ value, readBare type stored = .ok value := by
  cases type with
  | string => exact ⟨_, readBare_string stored⟩
  | optString => exact ⟨_, readBare_optString stored⟩
  | json => exact ⟨_, readBare_json stored⟩
  | _ => cases reads

/-- Only a text of one character is read as a character. -/
theorem toList_of_readBare_char {c : Char} (read : readBare char stored = .ok c) :
    stored.toList = [c] := by
  rw [readBare_eq (k := char) (answers_char_string stored maxDepth)] at read
  split at read
  next d single =>
    cases read
    exact single
  next => cases read

/-- What is read as a bare string is written as this string. -/
theorem encode_of_readBare (settles : type.settles = true)
    (read : readBare type stored = .ok value) : Form.encode value = .ok (.string stored) := by
  cases type with
  | string =>
    rw [readBare_string] at read
    cases read
    rfl
  | optString =>
    rw [readBare_optString] at read
    cases read
    rfl
  | json =>
    rw [readBare_json] at read
    cases read
    rfl
  | char =>
    have single := toList_of_readBare_char read
    rw [← String.ofList_toList (s := stored), single]
    rfl
  -- The other types have no value that is a string.
  | u32 =>
    have refused := answers_wholeNumber_string "u32" stored 0 4294967296
    rw [readBare_eq (k := u32) (refused.error_bind _)] at read
    cases read
  | i64 =>
    have refused :=
      answers_wholeNumber_string "i64" stored (-9223372036854775808) 9223372036854775808
    rw [readBare_eq (k := i64) (refused.error_bind _)] at read
    cases read
  | bool =>
    rw [readBare_eq (k := bool) (answers_unexpected "a boolean" stored)] at read
    cases read
  | person =>
    rw [Person.readBare_eq_error] at read
    cases read
  | _ => cases settles

/-! ## JSON texts -/

/-- Nothing with a float is read from a text as a JSON value. -/
def HasNoFloats (stored : String) : Prop :=
  ∀ read : CanonicalJson, parse stored = .ok read → read.val.wholeNumbers = true

/-- What is read as JSON and is no string is told by its text, which can be read again. -/
theorem exists_faithful_of_parse (settles : type.settles = true)
    (parsed : parse stored = .ok value) (shown : isWrittenBare type value = false)
    (whole : type = json → HasNoFloats stored) :
    ∃ form, Form.Faithful value form ∧ form.Canonical ∧ form.isString = false ∧
      form.depth ≤ maxDepth := by
  cases type with
  | u32 => exact ⟨_, faithful_uint32 value, trivial, rfl, Nat.zero_le _⟩
  | i64 => exact ⟨_, faithful_int64 value, trivial, rfl, Nat.zero_le _⟩
  | bool => exact ⟨_, faithful_bool value, trivial, rfl, Nat.zero_le _⟩
  | optString =>
    cases value with
    | none => exact ⟨_, faithful_none, trivial, rfl, Nat.zero_le _⟩
    | some s => cases shown
  | person =>
    refine ⟨_, Person.faithful_toJson value, Person.canonical_toJson value, rfl, ?_⟩
    simp [Person.depth_toJson, maxDepth]
  | json =>
    -- No reader lets a value through that nests too deeply for the next one.
    have faithful := faithful_canonicalJson (whole rfl value parsed)
    exact ⟨value.val, faithful, value.property, shown, depth_le_of_parse parsed⟩
  | string | char => cases shown
  | _ => cases settles

/-! ## Loading and saving -/

theorem exists_hasDefaultText (settles : type.settles = true)
    (read : readDefault type stored = .ok value) (whole : type = json → HasNoFloats stored) :
    ∃ text, HasDefaultText type value text := by
  -- Read as JSON, the value is written in canonical form; read bare, it keeps its text.
  rcases readDefault_cases read with ⟨parsed, shown⟩ | bare
  · rcases exists_faithful_of_parse settles parsed shown whole with
      ⟨form, faithful, canonical, shown, shallow⟩
    exact ⟨_, .of_faithful faithful canonical shown shallow⟩
  · exact ⟨stored, .of_bare (encode_of_readBare settles bare) read⟩

theorem hasDefaultText_of_bare (settles : type.settles = true)
    (read : readDefault type stored = .ok value) (bare : isWrittenBare type value = true) :
    HasDefaultText type value stored := by
  rcases readDefault_cases read with ⟨-, shown⟩ | read_bare
  · cases bare.symm.trans shown
  · exact .of_bare (encode_of_readBare settles read_bare) read

/-- Loading and saving settles a text: what was loaded is stored as some text, which is loaded as
the same value and so stored again as it is. Only JSON with floats is left out. A value that is
written as a bare string keeps the very text that it was loaded from, and some types can be loaded
from every text. -/
theorem load_save_load_stable {registry : Registry FieldType} (settles : type.settles = true)
    (unregistered : registry.find? type = none) {column : String} {row : Row}
    (held : row[column]? = some (.text stored)) :
    (type.readsAll = true →
      ∃ value, (row.readScalar registry column type).effect () = (.ok (some value), ())) ∧
    ∀ value, (row.readScalar registry column type).effect () = (.ok (some value), ()) →
      (isWrittenBare type value = true → registry.StoresAs column type value stored) ∧
      ((type = json → HasNoFloats stored) →
        ∃ text, registry.StoresAs column type value text ∧
          registry.LoadsAs column type text value) := by
  constructor
  · intro reads
    rcases exists_readDefault (exists_readBare reads stored) with ⟨value, read⟩
    exact ⟨value, (effect_get_eq_ok_iff unregistered held).2 read⟩
  intro value loaded
  have read := (effect_get_eq_ok_iff unregistered held).1 loaded
  constructor
  · intro bare
    exact (hasDefaultText_of_bare settles read bare).storesAs unregistered column
  · intro whole
    rcases exists_hasDefaultText settles read whole with ⟨text, has⟩
    exact ⟨text, has.storesAs unregistered column, has.loadsAs unregistered column⟩

/-- A JSON text with blanks and a repeated member settles. -/
theorem load_save_load_stable_repeated_member :
    let registry : Registry FieldType := { converters := [], options := {} }
    let stored := "\x7b\"b\": 1, \"a\": [], \"a\": null \x7d"
    let row : Row := (∅ : Row).insert "extra" (.text stored)
    let value : CanonicalJson :=
      .ofJson (.object [("a", .null), ("b", .integer (.ofUInt8 1))])
    registry.find? json = none ∧ row["extra"]? = some (.text stored) ∧ HasNoFloats stored ∧
      (row.readScalar registry "extra" json).effect () = (.ok (some value), ()) ∧
      ∃ text, registry.StoresAs "extra" json value text ∧
        registry.LoadsAs "extra" json text value := by
  intro registry stored row value
  have held : row["extra"]? = some (.text stored) := by simp [row]
  have unregistered : registry.find? json = none := rfl
  have parsed : (parse stored : Except Fault CanonicalJson) = .ok value := by decide +kernel
  have whole : HasNoFloats stored := by
    intro read again
    cases again.symm.trans parsed
    rfl
  have read : readDefault json stored = .ok value := readDefault_of_parse parsed rfl
  have loaded := (effect_get_eq_ok_iff unregistered held).2 read
  have settled := ((load_save_load_stable rfl unregistered held).2 value loaded).2 fun _ => whole
  exact ⟨unregistered, held, whole, loaded, settled⟩

end Cellwise.FieldType

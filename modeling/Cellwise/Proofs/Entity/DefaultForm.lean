import Cellwise.Proofs.Entity.Paths
import Cellwise.Proofs.Json.FormRoundTrip

/-!
# The default form read back

`HasDefaultText` says that a value is stored as a text and loaded from it again. A value has the
JSON text of a form of it that is no string, or else the string that it is written as; a value that
was loaded from a text has been read in one of these two ways.
-/

namespace Cellwise

open Json Json.Reader

variable {κ : Type} [FieldFamily κ] {k : κ} {value : Value k} {json : Json} {stored text : String}

/-! ## Writing -/

theorem defaultText_of_encode (encoded : Form.encode value = .ok json) :
    defaultText k value = .ok json.storedText := by
  rw [defaultText, encoded]
  rfl

theorem isWrittenBare_of_encode (encoded : Form.encode value = .ok json) :
    isWrittenBare k value = json.isString := by
  rw [isWrittenBare, encoded]

theorem storedText_of_canonical (canonical : json.Canonical) (shown : json.isString = false) :
    json.storedText = json.render := by
  cases json with
  | string s => cases shown
  | _ => exact congrArg render canonical.canonical_eq

/-! ## Reading -/

/-- What a reader answers to a string is what it makes of a bare text. -/
theorem readBare_eq {answer : Except Fault (Value k)}
    (answers : Answers (Form.read maxDepth) (Json.string stored).chars answer) :
    readBare k stored = answer := by
  rw [readBare, parse, String.toList_ofList]
  exact answers.whole

theorem readBare_of_faithful (faithful : Form.Faithful value (.string stored)) :
    readBare k stored = .ok value :=
  readBare_eq (faithful.reads (Nat.zero_le maxDepth))

theorem readDefault_of_parse (parsed : parse stored = .ok value)
    (shown : isWrittenBare k value = false) : readDefault k stored = .ok value := by
  rw [readDefault, parsed]
  simp [shown]

theorem readDefault_of_parse_error {fault : Fault}
    (failed : (parse stored : Except Fault (Value k)) = .error fault) :
    readDefault k stored = readBare k stored := by
  rw [readDefault, failed]

/-- A loaded value has been read as JSON or as a bare string. -/
theorem readDefault_cases (read : readDefault k stored = .ok value) :
    (parse stored = .ok value ∧ isWrittenBare k value = false) ∨
      readBare k stored = .ok value := by
  rw [readDefault] at read
  split at read
  next other parsed =>
    -- A value that is written bare is read once more, as the string that the text is.
    split at read
    next => exact .inr read
    next shown =>
      cases read
      exact .inl ⟨parsed, Bool.eq_false_iff.2 shown⟩
  next => exact .inr read

/-- Types whose values can all be bare strings have a value for every text. -/
theorem exists_readDefault (bare : ∃ value, readBare k stored = .ok value) :
    ∃ value, readDefault k stored = .ok value := by
  rw [readDefault]
  split
  next value parsed =>
    split
    next => exact bare
    next => exact ⟨value, rfl⟩
  next => exact bare

/-! ## Both ways -/

/-- A value is stored as a text and loaded from it. -/
structure HasDefaultText (k : κ) (value : Value k) (text : String) : Prop where
  written : defaultText k value = .ok text
  read : readDefault k text = .ok value

namespace HasDefaultText

theorem of_faithful (faithful : Form.Faithful value json) (canonical : json.Canonical)
    (shown : json.isString = false) (shallow : json.depth ≤ maxDepth) :
    HasDefaultText k value json.render where
  written := by
    rw [defaultText_of_encode faithful.encoded, storedText_of_canonical canonical shown]
  read := by
    have parsed : parse json.render = .ok value :=
      faithful.parse_render.trans (within_of_le shallow value)
    exact readDefault_of_parse parsed ((isWrittenBare_of_encode faithful.encoded).trans shown)

/-- A value that was loaded from the string that it is written as is stored as this string. -/
theorem of_bare (encoded : Form.encode value = .ok (.string stored))
    (read : readDefault k stored = .ok value) : HasDefaultText k value stored where
  written := defaultText_of_encode encoded
  read

end HasDefaultText

/-! ## With a registry -/

theorem Path.default_write (written : defaultText k value = .ok text) (column : String) :
    (Path.default column k).write value = .ok text := by
  simp only [Path.default, written]
  rfl

theorem Path.default_read (read : readDefault k stored = .ok value) (column : String) :
    (Path.default column k).read stored = .ok (some value) := by
  simp only [Path.default, read]
  rfl

/-- A value is stored as a text in a column of any row. -/
def Registry.StoresAs (registry : Registry κ) (column : String) (k : κ) (value : Value k)
    (text : String) : Prop :=
  ∀ row : Row, ((WriteCall.scalar column k (some value)).perform registry).effect row =
    (.ok (), row.insert column (.text text))

/-- A text in a column of any row is loaded as a value. -/
def Registry.LoadsAs (registry : Registry κ) (column : String) (k : κ) (text : String)
    (value : Value k) : Prop :=
  ∀ row : Row, row[column]? = some (.text text) →
    (row.readScalar registry column k).effect () = (.ok (some value), ())

section Fields

variable {registry : Registry κ} (unregistered : registry.find? k = none)

include unregistered

/-- Without a converter, what is loaded is read from the default form. -/
theorem effect_get_eq_ok_iff {column : String} {row : Row}
    (held : row[column]? = some (.text stored)) :
    (row.readScalar registry column k).effect () = (.ok (some value), ()) ↔
      readDefault k stored = .ok value := by
  rw [(takes_default unregistered column).get, held]
  simp only [Path.default]
  cases readDefault k stored <;> simp [Except.map, Except.mapError]

theorem storesAs_iff_defaultText {column : String} :
    registry.StoresAs column k value text ↔ defaultText k value = .ok text := by
  have put (row : Row) := (takes_default unregistered column).put (some value) row
  simp only [Path.default] at put
  constructor
  · intro stores
    -- What is put into an empty row is there to be seen.
    have same := (put ∅).symm.trans (stores ∅)
    cases written : defaultText k value with
    | error reason => simp [written] at same
    | ok other =>
      simp only [written, mapError_ok] at same
      have cell := congrArg (fun outcome => outcome.2[column]?) same
      simpa using cell
  · intro written row
    rw [put, written]
    rfl

theorem loadsAs_iff_readDefault {column : String} :
    registry.LoadsAs column k text value ↔ readDefault k text = .ok value := by
  constructor
  · intro loads
    have held : ((∅ : Row).insert column (.text text))[column]? = some (.text text) := by simp
    exact (effect_get_eq_ok_iff unregistered held).1 (loads _ held)
  · intro read row held
    exact (effect_get_eq_ok_iff unregistered held).2 read

namespace HasDefaultText

variable (has : HasDefaultText k value text) (column : String)

include has

theorem storesAs : registry.StoresAs column k value text :=
  (storesAs_iff_defaultText unregistered).2 has.written

theorem loadsAs : registry.LoadsAs column k text value :=
  (loadsAs_iff_readDefault unregistered).2 has.read

end HasDefaultText

end Fields

end Cellwise

import Cellwise.Proofs.Catalog.Settling

/-!
# Bare strings that look like JSON

A value that is written as a string is stored bare, and a stored text does not tell whether it is
such a string or the JSON text of another value. It is taken for JSON where it can be, so that not
every value comes back from its own text.

* `FieldType.loads_json_iff` says which JSON values come back, and what is loaded in the place of
  the others: a string may be taken for what its text describes, and a value that nests too deeply
  to be read is taken for a string.
* `FieldType.optional_texts_keep_all_but_null` says that of the optional texts just the word `null`
  is lost, with or without blanks around it.
-/

namespace Cellwise.FieldType

open Json Json.Reader

/-! ## JSON values -/

/-- A string as a JSON value. -/
abbrev jsonString (s : String) : CanonicalJson := ⟨.string s, trivial⟩

/-- The text of a string describes nothing else: it cannot be read, or it is read as a string. -/
def StandsForItself (s : String) : Prop :=
  ∀ described : CanonicalJson, parse s = .ok described → described.val.isString = true

section Values

variable {value described : CanonicalJson} {s : String}

theorem exists_string_of_isString (shown : value.val.isString = true) :
    ∃ s, value.val = .string s := by
  cases held : value.val with
  | string s => exact ⟨s, rfl⟩
  | _ => simp [held, isString] at shown

theorem readDefault_of_standsForItself (is_string : value.val = .string s)
    (alone : StandsForItself s) : readDefault json value.val.storedText = .ok value := by
  obtain rfl : value = jsonString s := Subtype.ext is_string
  change readDefault json s = .ok (jsonString s)
  cases parsed : (parse s : Except Fault CanonicalJson) with
  | error fault =>
    rw [readDefault_of_parse_error (k := json) parsed]
    exact readBare_json s
  | ok described =>
    -- A text that is read as a string is the text of another string than itself.
    have bare : isWrittenBare json described = true := alone described parsed
    rw [readDefault, parsed]
    simp only [bare, if_true]
    exact readBare_json s

theorem readDefault_of_described (is_string : value.val = .string s)
    (parsed : parse s = .ok described) (shown : described.val.isString = false) :
    readDefault json value.val.storedText = .ok described := by
  have text : value.val.storedText = s := congrArg storedText is_string
  rw [text]
  exact readDefault_of_parse (k := json) parsed shown

theorem parse_storedText (whole : value.val.wholeNumbers = true)
    (shown : value.val.isString = false) :
    parse value.val.storedText = within maxDepth value.val value := by
  rw [storedText_of_canonical value.property shown]
  exact (faithful_canonicalJson whole).parse_render

theorem readDefault_of_shallow (whole : value.val.wholeNumbers = true)
    (shown : value.val.isString = false) (shallow : value.val.depth ≤ maxDepth) :
    readDefault json value.val.storedText = .ok value := by
  have parsed := parse_storedText whole shown
  rw [within_of_le shallow] at parsed
  exact readDefault_of_parse (k := json) parsed shown

/-- What nests too deeply to be read as JSON is read as a string all the same. -/
theorem readDefault_of_deep (whole : value.val.wholeNumbers = true)
    (shown : value.val.isString = false) (deep : maxDepth < value.val.depth) :
    readDefault json value.val.storedText = .ok (jsonString value.val.render) := by
  have parsed := parse_storedText whole shown
  rw [within_of_lt deep] at parsed
  rw [readDefault_of_parse_error (k := json) parsed, storedText_of_canonical value.property shown]
  exact readBare_json _

theorem readDefault_eq_self_iff (whole : value.val.wholeNumbers = true) :
    readDefault json value.val.storedText = .ok value ↔
      (value.val.isString = false ∧ value.val.depth ≤ maxDepth) ∨
        ∃ s, value.val = .string s ∧ StandsForItself s := by
  constructor
  · intro back
    cases shown : value.val.isString with
    | false =>
      refine .inl ⟨rfl, Nat.not_lt.1 fun deep => ?_⟩
      -- A value that nests more deeply comes back as a string, which it is not.
      have as_string := back.symm.trans (readDefault_of_deep whole shown deep)
      have same : value = jsonString value.val.render := Except.ok.inj as_string
      rw [same] at shown
      cases shown
    | true =>
      obtain ⟨s, is_string⟩ := exists_string_of_isString shown
      refine .inr ⟨s, is_string, fun described parsed => ?_⟩
      -- If the text described anything but a string, then that would have come back.
      cases other : described.val.isString with
      | true => rfl
      | false =>
        have instead := back.symm.trans (readDefault_of_described is_string parsed other)
        have same : value = described := Except.ok.inj instead
        rw [same, other] at shown
        cases shown
  · rintro (⟨shown, shallow⟩ | ⟨s, is_string, alone⟩)
    · exact readDefault_of_shallow whole shown shallow
    · exact readDefault_of_standsForItself is_string alone

end Values

/-- A JSON value with whole numbers is always stored. It comes back if it is no string and does not
nest too deeply, or if it is a string that stands for itself, and in no other case: the text of a
deeper value comes back as a string, and a string that describes another value as that value. -/
theorem loads_json_iff {registry : Registry FieldType} (unregistered : registry.find? json = none)
    (column : String) {value : CanonicalJson} (whole : value.val.wholeNumbers = true) :
    let text := value.val.storedText
    let Loads := registry.LoadsAs column json text
    registry.StoresAs column json value text ∧
      (value.val.isString = false → value.val.depth ≤ 127 → Loads value) ∧
      (value.val.isString = false → 128 ≤ value.val.depth → Loads (jsonString value.val.render)) ∧
      (∀ s, value.val = .string s → StandsForItself s → Loads value) ∧
      (∀ s described, value.val = .string s → parse s = .ok described →
        described.val.isString = false → Loads described) ∧
      (Loads value ↔ (value.val.isString = false ∧ value.val.depth ≤ 127) ∨
        ∃ s, value.val = .string s ∧ StandsForItself s) := by
  intro text Loads
  have loads_iff (loaded : CanonicalJson) : Loads loaded ↔ readDefault json text = .ok loaded :=
    loadsAs_iff_readDefault unregistered
  simp only [loads_iff]
  refine ⟨?stores, ?shallow, ?deep, ?alone, ?described, readDefault_eq_self_iff whole⟩
  case stores =>
    exact (storesAs_iff_defaultText unregistered).2 (defaultText_of_encode (k := json) rfl)
  case shallow =>
    intro shown shallow
    exact readDefault_of_shallow whole shown shallow
  case deep =>
    intro shown deep
    exact readDefault_of_deep whole shown deep
  case alone =>
    intro s is_string alone
    exact readDefault_of_standsForItself is_string alone
  case described =>
    intro s described is_string parsed shown
    exact readDefault_of_described is_string parsed shown

/-- The text of an array is stored as it is and comes back as the array. -/
theorem loads_json_iff_text_of_array :
    let registry : Registry FieldType := { converters := [], options := {} }
    let value := jsonString "[1, null]"
    let described : CanonicalJson := .ofJson (.array [.integer (.ofUInt8 1), .null])
    registry.find? json = none ∧ value.val.wholeNumbers = true ∧
      registry.StoresAs "extra" json value "[1, null]" ∧
      registry.LoadsAs "extra" json "[1, null]" described ∧
      ¬ registry.LoadsAs "extra" json "[1, null]" value := by
  intro registry value described
  have unregistered : registry.find? json = none := rfl
  have whole : value.val.wholeNumbers = true := rfl
  have parsed : parse "[1, null]" = .ok described := by decide +kernel
  obtain ⟨stores, -, -, -, described_loads, back_iff⟩ :=
    loads_json_iff unregistered "extra" whole
  refine ⟨unregistered, whole, stores, described_loads _ _ rfl parsed rfl, fun back => ?_⟩
  rcases back_iff.1 back with ⟨shown, -⟩ | ⟨s, is_string, alone⟩
  · cases shown
  · cases is_string
    cases alone described parsed

/-! ## Optional texts -/

/-- A text is the word `null`, with nothing but the blanks of JSON around it. -/
def NullText (text : String) : Prop :=
  ∃ before after, Blank before ∧ Blank after ∧ text.toList = before ++ nullChars ++ after

/-- Is a text the word `null`? -/
def isNullText (text : String) : Bool :=
  match text.toList.dropWhile isSpace with
  | 'n' :: 'u' :: 'l' :: 'l' :: rest => rest.all isSpace
  | _ => false

/-- An optional text as it comes back: the text `null` is gone. -/
def nullAsAbsent : Option String → Option String
  | some text => if isNullText text then none else some text
  | none => none

section Texts

variable {text : String}

theorem word_eq_ok_iff {letters input rest : List Char} :
    word letters input = .ok ((), rest) ↔ input = letters ++ rest := by
  induction letters generalizing input with
  | nil => simp [word]
  | cons c letters ih =>
    cases input with
    | nil => simp [word]
    | cons d input =>
      rw [word]
      split
      next same => simp [same, ih]
      next other => simp [Ne.symm other]

theorem isNullText_iff_dropWhile :
    isNullText text = true ↔
      ∃ rest, text.toList.dropWhile isSpace = nullChars ++ rest ∧ Blank rest := by
  rw [isNullText]
  constructor
  · intro null
    split at null
    next rest behind => exact ⟨rest, behind, List.all_eq_true.1 null⟩
    next => cases null
  · rintro ⟨rest, behind, blank⟩
    rw [behind]
    exact List.all_eq_true.2 blank

theorem isNullText_iff : isNullText text = true ↔ NullText text := by
  rw [isNullText_iff_dropWhile]
  constructor
  · rintro ⟨rest, behind, blank⟩
    refine ⟨text.toList.takeWhile isSpace, rest, List.all_eq_true.1 List.all_takeWhile, blank, ?_⟩
    calc text.toList
      _ = text.toList.takeWhile isSpace ++ text.toList.dropWhile isSpace :=
        List.takeWhile_append_dropWhile.symm
      _ = text.toList.takeWhile isSpace ++ nullChars ++ rest := by
        rw [behind, List.append_assoc]
  · rintro ⟨before, after, blank, blank_after, split⟩
    refine ⟨after, ?_, blank_after⟩
    rw [split, List.append_assoc, List.dropWhile_append_of_pos blank]
    rfl

/-- An absent text is read off the word `null` and off nothing else. -/
theorem read_eq_none_iff {bound : Nat} {input rest : List Char} :
    (Form.read bound : Reader (Option String)) input = .ok (none, rest) ↔
      input.dropWhile isSpace = nullChars ++ rest := by
  have seen : peek input =
      .ok ((input.dropWhile isSpace).head?, input.dropWhile isSpace) := rfl
  simp only [Form.read]
  rw [bind_of_ok seen]
  split
  next first =>
    rw [← word_eq_ok_iff]
    change (word nullChars >>= fun _ => pure none) _ = _ ↔ _
    cases taken : word nullChars (input.dropWhile isSpace) with
    | error fault => simp [bind_of_error taken]
    | ok outcome =>
      rcases outcome with ⟨⟨⟩, left⟩
      rw [bind_of_ok taken]
      simp
  next other =>
    -- What does not begin like `null` is read as a text, if at all.
    have no_null : input.dropWhile isSpace ≠ nullChars ++ rest := by
      intro behind
      exact other (congrArg List.head? behind)
    cases taken : Reader.string "a string" (input.dropWhile isSpace) with
    | error fault => simp [bind_of_error taken, no_null]
    | ok outcome => simp [bind_of_ok taken, no_null]

/-- Only the word `null` is read as an absent text. -/
theorem parse_eq_none_iff :
    (parse text : Except Fault (Option String)) = .ok none ↔ isNullText text = true := by
  rw [parse, whole_eq_ok_iff, isNullText_iff_dropWhile]
  simp only [read_eq_none_iff]
  rfl

theorem readDefault_optString (text : String) :
    readDefault optString text = .ok (nullAsAbsent (some text)) := by
  rw [nullAsAbsent]
  cases null : isNullText text with
  | true => exact readDefault_of_parse (k := optString) (parse_eq_none_iff.2 null) rfl
  | false =>
    have bare : readBare optString text = .ok (some text) := readBare_optString text
    rw [readDefault]
    split
    next value parsed =>
      -- A text that is read from JSON is written bare, as any other text.
      cases value with
      | none => simp [parse_eq_none_iff.1 parsed] at null
      | some other => exact bare
    next => exact bare

end Texts

/-! ### Lists of optional texts -/

/-- The text that an optional text is stored as. -/
def optionalText : Option String → String
  | some text => text
  | none => "null"

theorem nullAsAbsent_eq_self_iff {value : Option String} :
    nullAsAbsent value = value ↔ ∀ text, some text = value → ¬ NullText text := by
  cases value with
  | none => simp [nullAsAbsent]
  | some text => cases null : isNullText text <;> simp [nullAsAbsent, ← isNullText_iff, null]

theorem map_nullAsAbsent_eq_self_iff {values : List (Option String)} :
    values.map nullAsAbsent = values ↔ ∀ text, some text ∈ values → ¬ NullText text := by
  calc values.map nullAsAbsent = values
    _ ↔ values.map nullAsAbsent = values.map id := by rw [List.map_id]
    _ ↔ ∀ value ∈ values, nullAsAbsent value = value := List.map_inj_left
    _ ↔ ∀ text, some text ∈ values → ¬ NullText text := by
      simp only [nullAsAbsent_eq_self_iff]
      constructor
      · intro each text mem
        exact each (some text) mem text rfl
      · rintro each value mem text rfl
        exact each text mem

theorem exists_row_of_optionals {registry : Registry FieldType}
    (unregistered : registry.find? optString = none) (column : String)
    (values : List (Option String)) :
    ∃ row : Row,
      (Row.ofCalls registry [.list column optString values]).effect () = (.ok row, ()) ∧
      (row.readList registry column optString).effect () = (.ok (values.map nullAsAbsent), ()) := by
  have write (value : Option String) :
      (Path.default column optString).write value = .ok (optionalText value) := by
    have written : defaultText optString value = .ok (optionalText value) := by
      cases value <;> rfl
    exact Path.default_write written column
  have read (value : Option String) :
      (Path.default column optString).read (optionalText value) =
        .ok (some (nullAsAbsent value)) := by
    cases value with
    | none =>
      have absent : nullAsAbsent (some "null") = none := by decide +kernel
      have read := readDefault_optString "null"
      rw [absent] at read
      exact Path.default_read read column
    | some text => exact Path.default_read (readDefault_optString text) column
  exact (takes_default unregistered column).exists_row_of_list write read values

/-- Optional texts in a list come back in their order, but the text `null` comes back as no text,
since this is what an absent text is stored as. So a list comes back as it was if and only if none
of its texts is that word. -/
theorem optional_texts_keep_all_but_null {registry : Registry FieldType}
    (unregistered : registry.find? optString = none) (column : String)
    (values : List (Option String)) :
    ∃ row : Row,
      (Row.ofCalls registry [.list column optString values]).effect () = (.ok row, ()) ∧
      (row.readList registry column optString).effect () = (.ok (values.map nullAsAbsent), ()) ∧
      (values.map nullAsAbsent = values ↔ ∀ text, some text ∈ values → ¬ NullText text) := by
  obtain ⟨row, written, loaded⟩ := exists_row_of_optionals unregistered column values
  exact ⟨row, written, loaded, map_nullAsAbsent_eq_self_iff⟩

/-- Texts that are JSON come back, with blanks as well, unless they are the word `null`. -/
theorem optional_texts_keep_all_but_null_mixed :
    let registry : Registry FieldType := { converters := [], options := {} }
    registry.find? optString = none ∧
      ∃ row : Row,
        (Row.ofCalls registry
          [.list "notes" optString [some "[1]", none, some " null ", some "\"x\""]]).effect () =
            (.ok row, ()) ∧
        (row.readList registry "notes" optString).effect () =
          (.ok [some "[1]", none, none, some "\"x\""], ()) := by
  intro registry
  have unregistered : registry.find? optString = none := rfl
  have back : [some "[1]", none, some " null ", some "\"x\""].map nullAsAbsent =
      [some "[1]", none, none, some "\"x\""] := by decide +kernel
  obtain ⟨row, written, loaded, -⟩ := optional_texts_keep_all_but_null unregistered "notes"
    [some "[1]", none, some " null ", some "\"x\""]
  rw [back] at loaded
  exact ⟨unregistered, row, written, loaded⟩

/-- What is loaded is not always what was stored: a text that is there comes back as none. -/
theorem optional_null_text_is_lost :
    ¬ ∀ (registry : Registry FieldType) (column : String) (values : List (Option String)),
      registry.find? optString = none →
      ∃ row : Row,
        (Row.ofCalls registry [.list column optString values]).effect () = (.ok row, ()) ∧
        (row.readList registry column optString).effect () = (.ok values, ()) := by
  intro inverse
  let registry : Registry FieldType := { converters := [], options := {} }
  have unregistered : registry.find? optString = none := rfl
  obtain ⟨row, written, loaded⟩ := inverse registry "notes" [some "null"] unregistered
  obtain ⟨other, written', loaded'⟩ :=
    exists_row_of_optionals unregistered "notes" [some "null"]
  -- Both speak of the same row, so that the same list has been read from it.
  obtain rfl : row = other := Except.ok.inj (congrArg Prod.fst (written.symm.trans written'))
  have same : [some "null"] = [some "null"].map nullAsAbsent :=
    Except.ok.inj (congrArg Prod.fst (loaded.symm.trans loaded'))
  exact absurd same (by decide +kernel)

end Cellwise.FieldType

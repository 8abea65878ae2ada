import Mathlib.Data.List.ReduceOption
import Cellwise.Entity.Reading
import Cellwise.Proofs.Convert.Lookup
import Cellwise.Proofs.Entity.Writing
import Cellwise.Proofs.Walk

/-!
# The path of a field

A field goes through the converter of its type, or takes the default form of its value if the type
has none. These are two paths: what is stored and loaded and how it fails is decided by one of them
alone, whatever the causes of the converter look like.

* `Registry.Takes` says of all ways to write and read a field that they follow a path;
  `takes_custom` and `takes_default` say which path that is.
* `Registry.FieldFails` are the failures of a field; `Registry.FieldFails.of_some` and
  `Registry.FieldFails.of_none` say what they look like on either path.
-/

namespace Cellwise

variable {κ : Type} [FieldFamily κ] {k : κ}

/-- A way to turn the values of a field into stored texts and back. -/
structure Path (k : κ) where
  write : Value k → Except MappingError String
  /-- A stored text may be read as absent. -/
  read : String → Except MappingError (Option (Value k))

namespace Path

/-- The path through a converter. -/
def custom (options : RegistryOptions) (converter : Converter k) : Path k where
  write value :=
    (converter.write value).mapError fun cause =>
      .conversion (.conversion (typeName k) .write cause)
  read stored :=
    if options.blankIsAbsent && Text.isBlank stored then .ok none
    else ((converter.read stored).map some).mapError fun cause =>
      .conversion (.conversion (typeName k) .read cause)

/-- The path of the default form. -/
def default (column : String) (k : κ) : Path k where
  write value := (defaultText k value).mapError (.default column)
  read stored := ((readDefault k stored).map some).mapError fun fault =>
    .default column fault.message

variable (path : Path k)

/-- The stored texts of values, up to the first failure. -/
def writeAll (values : List (Value k)) : Except MappingError (List String) :=
  values.mapM path.write

/-- The values of stored texts that are not read as absent, up to the first failure. -/
def readAll (items : List String) : Except MappingError (List (Value k)) :=
  (items.mapM path.read).map List.reduceOption

/-- A failure in one direction. -/
def Fails (error : MappingError) : Direction → Prop
  | .write => ∃ value, path.write value = .error error
  | .read => ∃ stored, path.read stored = .error error

end Path

/-- Fields of a column and type are written and read on a path, alone or in collections. -/
structure Registry.Takes (registry : Registry κ) (column : String) (path : Path k) : Prop where
  put : ∀ (value : Option (Value k)) (row : Row),
    ((WriteCall.scalar column k value).perform registry).effect row =
      match value with
      | none => (.ok (), row)
      | some value =>
        match path.write value with
        | .error e => (.error e, row)
        | .ok stored => (.ok (), row.insert column (.text stored))
  putList : ∀ (values : List (Value k)) (row : Row),
    ((WriteCall.list column k values).perform registry).effect row =
      match path.writeAll values with
      | .error e => (.error e, row)
      | .ok stored => (.ok (), if stored = [] then row else row.insert column (.list stored))
  putSet : ∀ (values : List (Value k)) (row : Row),
    ((WriteCall.set column k values).perform registry).effect row =
      match path.writeAll values with
      | .error e => (.error e, row)
      | .ok stored =>
        (.ok (), if stored = [] then row else row.insert column (.set (.ofList stored)))
  get : ∀ row : Row, (row.readScalar registry column k).effect () =
    match row[column]? with
    | some (.text stored) => (path.read stored, ())
    | some other => (.error (.unexpectedCell column .text other.kind), ())
    | none => (.ok none, ())
  getList : ∀ row : Row, (row.readList registry column k).effect () =
    match row[column]? with
    | some (.list items) => (path.readAll items, ())
    | some other => (.error (.unexpectedCell column .list other.kind), ())
    | none => (.ok [], ())
  getSet : ∀ row : Row, (row.readSet registry column k).effect () =
    match row[column]? with
    | some (.set items) => ((path.readAll items.toList).map (FieldFamily.distinct k), ())
    | some other => (.error (.unexpectedCell column .set other.kind), ())
    | none => (.ok [], ())

/-- Where two paths write the same texts, calls write the same cells. -/
theorem Registry.Takes.perform_alike {registry other : Registry κ} {column : String}
    {path path' : Path k} (takes : registry.Takes column path) (takes' : other.Takes column path')
    {text : Value k → String} (write : ∀ value, path.write value = .ok (text value))
    (write' : ∀ value, path'.write value = .ok (text value)) (one : Option (Value k))
    (values : List (Value k)) (row : Row) :
    ∀ call ∈ [WriteCall.scalar column k one, .list column k values, .set column k values],
      ∃ later, (call.perform registry).effect row = (.ok (), later) ∧
        (call.perform other).effect row = (.ok (), later) := by
  have all : path.writeAll values = .ok (values.map text) := by
    simp only [Path.writeAll, funext write]
    exact List.mapM_pure
  have all' : path'.writeAll values = .ok (values.map text) := by
    simp only [Path.writeAll, funext write']
    exact List.mapM_pure
  simp only [List.forall_mem_cons, List.not_mem_nil, false_imp_iff, implies_true, and_true]
  refine ⟨?scalar, ?list, ?set⟩
  case scalar =>
    rw [takes.put, takes'.put]
    cases one with
    | none => exact ⟨row, rfl, rfl⟩
    | some value =>
      simp only [write, write']
      exact ⟨_, rfl, rfl⟩
  case list =>
    rw [takes.putList, takes'.putList, all, all']
    exact ⟨_, rfl, rfl⟩
  case set =>
    rw [takes.putSet, takes'.putSet, all, all']
    exact ⟨_, rfl, rfl⟩

/-- Where every value has a text on a path and every such text is read as something, a list comes
back from a row of its own element by element. -/
theorem Registry.Takes.exists_row_of_list {registry : Registry κ} {column : String} {path : Path k}
    (takes : registry.Takes column path) {text : Value k → String} {back : Value k → Value k}
    (write : ∀ value, path.write value = .ok (text value))
    (read : ∀ value, path.read (text value) = .ok (some (back value))) (values : List (Value k)) :
    ∃ row : Row, (Row.ofCalls registry [.list column k values]).effect () = (.ok row, ()) ∧
      (row.readList registry column k).effect () = (.ok (values.map back), ()) := by
  have written : path.writeAll values = .ok (values.map text) := by
    simp only [Path.writeAll, funext write]
    exact List.mapM_pure
  have loaded : path.readAll (values.map text) = .ok (values.map back) := by
    have each : path.read ∘ text = fun value => Except.ok (some (back value)) := funext read
    have all : (values.map text).mapM path.read = .ok ((values.map back).map some) := by
      rw [List.mapM_map, each, List.map_map]
      exact List.mapM_pure
    rw [Path.readAll, all]
    simp [Except.map, List.reduceOption]
  have put := takes.putList values ∅
  simp only [written] at put
  have performed : (WriteCall.performAll registry [.list column k values]).effect ∅ =
      (.ok (), if values.map text = [] then ∅
        else (∅ : Row).insert column (.list (values.map text))) :=
    Action.effect_bind_of_ok put
  refine ⟨_, Row.effect_ofCalls performed, ?_⟩
  rw [takes.getList]
  -- A list without elements leaves the column empty, and is read from it all the same.
  cases values with
  | nil => simp
  | cons value values => simpa using loaded

/-! ## Which path a field takes -/

section Fields

variable {registry : Registry κ} {converter : Converter k} {column : String}

theorem encodeField_of_some (registered : registry.find? k = some converter) (value : Value k) :
    encodeField registry column k value =
      (Path.custom registry.options converter).write value := by
  simp only [encodeField, Registry.write_of_some registered, Path.custom]
  -- A cause that is itself a missing converter stays inside the failed conversion.
  cases converter.write value <;> rfl

theorem encodeField_of_none (unregistered : registry.find? k = none) (value : Value k) :
    encodeField registry column k value = (Path.default column k).write value := by
  rw [encodeField, Registry.write_of_none unregistered, Path.default]

/-- A field is read by looking at what the registry makes of its text, with the calls of that. -/
theorem traced_decodeField_of_some (registered : registry.find? k = some converter)
    (column stored : String) :
    (decodeField registry column k stored).traced =
      if registry.options.blankIsAbsent && Text.isBlank stored then (.ok none, [])
      else (((converter.read stored).mapError fun cause =>
          MappingError.conversion (.conversion (typeName k) .read cause)).map some,
        [(typeName k, stored)]) := by
  have read := Registry.traced_read_of_some registered stored
  split
  next absent =>
    rw [if_pos absent] at read
    rw [decodeField, Action.traced_bind_of_ok (Action.traced_attempt_of_eq read)]
    rfl
  next solid =>
    rw [if_neg solid] at read
    rw [decodeField, Action.traced_bind_of_ok (Action.traced_attempt_of_eq read)]
    cases converter.read stored <;> rfl

/-- A type without a converter takes any text for the default form of a value. -/
theorem traced_decodeField_of_none (unregistered : registry.find? k = none)
    (column stored : String) :
    (decodeField registry column k stored).traced =
      (((readDefault k stored).mapError fun fault =>
        MappingError.default column fault.message).map some, []) := by
  have read := Registry.traced_read_of_none unregistered stored
  rw [decodeField, Action.traced_bind_of_ok (Action.traced_attempt_of_eq read)]
  cases readDefault k stored <;> rfl

theorem effect_decodeField_of_some (registered : registry.find? k = some converter)
    (stored : String) :
    (decodeField registry column k stored).effect () =
      ((Path.custom registry.options converter).read stored, ()) := by
  rw [Action.effect_eq_traced, traced_decodeField_of_some registered, map_mapError, Path.custom]
  dsimp only
  split <;> rfl

theorem effect_decodeField_of_none (unregistered : registry.find? k = none) (stored : String) :
    (decodeField registry column k stored).effect () =
      ((Path.default column k).read stored, ()) := by
  rw [Action.effect_eq_traced, traced_decodeField_of_none unregistered, map_mapError, Path.default]

theorem encodeAll_of_encode {path : Path k}
    (encode : ∀ value, encodeField registry column k value = path.write value)
    (values : List (Value k)) : encodeAll registry column k values = path.writeAll values := by
  rw [encodeAll, Path.writeAll, funext encode]

/-- The texts of a collection are read one by one on the path of a single one. -/
theorem effect_readItems_of_decode {path : Path k}
    (decode : ∀ stored, (decodeField registry column k stored).effect () = (path.read stored, ()))
    (items : List String) :
    (Row.readItems registry column k items).effect () = (path.readAll items, ()) := by
  induction items with
  | nil => rfl
  | cons stored items ih =>
    have first := decode stored
    rw [Row.readItems, Path.readAll, List.mapM_cons]
    cases read : path.read stored with
    | error e =>
      rw [read] at first
      exact Action.effect_bind_of_error first
    | ok value =>
      rw [read] at first
      rw [Action.effect_bind_of_ok first]
      rw [Path.readAll] at ih
      -- A text that is read as absent is noted and left out.
      cases value with
      | none =>
        refine (Action.effect_bind_of_ok (Action.effect_log ..)).trans (ih.trans ?_)
        cases items.mapM path.read <;> rfl
      | some value =>
        cases rest : items.mapM path.read with
        | error e =>
          rw [rest] at ih
          exact Action.effect_bind_of_error ih
        | ok values =>
          rw [rest] at ih
          exact Action.effect_bind_of_ok ih

/-- What holds of single values holds of all ways to write and read a field. -/
theorem takes_of_fields {path : Path k}
    (encode : ∀ value, encodeField registry column k value = path.write value)
    (decode : ∀ stored, (decodeField registry column k stored).effect () = (path.read stored, ())) :
    registry.Takes column path where
  put value row := by
    rw [WriteCall.effect_perform]
    cases value with
    | none => rfl
    | some value =>
      simp only [WriteCall.cell?, encode]
      cases path.write value <;> rfl
  putList values row := by
    simp only [WriteCall.effect_perform, WriteCall.cell?, encodeAll_of_encode encode]
    cases path.writeAll values with
    | error e => rfl
    | ok stored => cases stored <;> rfl
  putSet values row := by
    simp only [WriteCall.effect_perform, WriteCall.cell?, encodeAll_of_encode encode]
    cases path.writeAll values with
    | error e => rfl
    | ok stored => cases stored <;> simp [Except.map, Cell.kept, Row.filled, WriteCall.column]
  get row := by
    rw [Row.readScalar]
    cases held : row[column]? with
    | none => rfl
    | some cell =>
      cases cell with
      | text stored => exact decode stored
      | list items => rfl
      | set items => rfl
  getList row := by
    rw [Row.readList]
    cases held : row[column]? with
    | none => rfl
    | some cell =>
      cases cell with
      | text stored => rfl
      | list items => exact effect_readItems_of_decode decode items
      | set items => rfl
  getSet row := by
    rw [Row.readSet]
    cases held : row[column]? with
    | none => rfl
    | some cell =>
      cases cell with
      | text stored => rfl
      | list items => rfl
      | set items =>
        have read := effect_readItems_of_decode decode items.toList
        cases all : path.readAll items.toList with
        | error e =>
          rw [all] at read
          simp only [all]
          exact Action.effect_bind_of_error read
        | ok values =>
          rw [all] at read
          simp only [all]
          exact Action.effect_bind_of_ok read

/-- A type with a converter takes the path through it. -/
theorem takes_custom (registered : registry.find? k = some converter) (column : String) :
    registry.Takes column (Path.custom registry.options converter) :=
  takes_of_fields (encodeField_of_some registered) (effect_decodeField_of_some registered)

/-- A type without a converter takes the path of the default form. -/
theorem takes_default (unregistered : registry.find? k = none) (column : String) :
    registry.Takes column (Path.default column k) :=
  takes_of_fields (encodeField_of_none unregistered) (effect_decodeField_of_none unregistered)

end Fields

/-! ## How a field fails -/

/-- A converter gives up with a cause in one direction. -/
def Converter.GivesUp (converter : Converter k) (cause : Cause) : Direction → Prop
  | .write => ∃ value, converter.write value = .error cause
  | .read => ∃ stored, converter.read stored = .error cause

/-- The failures of a field of a column and type, in whatever way it is written or read. -/
inductive Registry.FieldFails (registry : Registry κ) (column : String) (k : κ) :
    Direction → MappingError → Prop where
  | put {value : Option (Value k)} {row later : Row} {error : MappingError}
      (failed : ((WriteCall.scalar column k value).perform registry).effect row =
        (.error error, later)) : FieldFails registry column k .write error
  | putList {values : List (Value k)} {row later : Row} {error : MappingError}
      (failed : ((WriteCall.list column k values).perform registry).effect row =
        (.error error, later)) : FieldFails registry column k .write error
  | putSet {values : List (Value k)} {row later : Row} {error : MappingError}
      (failed : ((WriteCall.set column k values).perform registry).effect row =
        (.error error, later)) : FieldFails registry column k .write error
  | get {row : Row} {error : MappingError}
      (failed : (row.readScalar registry column k).effect () = (.error error, ())) :
      FieldFails registry column k .read error
  | getList {row : Row} {error : MappingError}
      (failed : (row.readList registry column k).effect () = (.error error, ())) :
      FieldFails registry column k .read error
  | getSet {row : Row} {error : MappingError}
      (failed : (row.readSet registry column k).effect () = (.error error, ())) :
      FieldFails registry column k .read error

namespace Path

variable {path : Path k} {column : String} {error : MappingError} {direction : Direction}

theorem fails_of_writeAll {values : List (Value k)} (failed : path.writeAll values = .error error) :
    path.Fails error .write := by
  obtain ⟨value, -, stopped⟩ := (mapM_eq_error_iff.1 failed).exists_mem
  exact ⟨value, stopped⟩

theorem fails_of_readAll {items : List String} (failed : path.readAll items = .error error) :
    path.Fails error .read := by
  rw [readAll] at failed
  cases all : items.mapM path.read with
  | error e =>
    obtain rfl : e = error := by simpa [all, Except.map] using failed
    obtain ⟨stored, -, stopped⟩ := (mapM_eq_error_iff.1 all).exists_mem
    exact ⟨stored, stopped⟩
  | ok values => simp [all, Except.map] at failed

/-- On the path through a converter, only the converter fails. -/
theorem Fails.of_custom {options : RegistryOptions} {converter : Converter k}
    (fails : (custom options converter).Fails error direction) :
    ∃ cause, converter.GivesUp cause direction ∧
      error = .conversion (.conversion (typeName k) direction cause) := by
  cases direction with
  | write =>
    obtain ⟨value, failed⟩ := fails
    cases gave : converter.write value with
    | error cause =>
      obtain rfl : .conversion (.conversion (typeName k) .write cause) = error := by
        simpa [custom, gave] using failed
      exact ⟨cause, ⟨value, gave⟩, rfl⟩
    | ok stored => simp [custom, gave] at failed
  | read =>
    obtain ⟨stored, failed⟩ := fails
    simp only [custom] at failed
    split at failed
    next => simp at failed
    next =>
      cases gave : converter.read stored with
      | error cause =>
        obtain rfl : .conversion (.conversion (typeName k) .read cause) = error := by
          simpa [gave, Except.map] using failed
        exact ⟨cause, ⟨stored, gave⟩, rfl⟩
      | ok value => simp [gave, Except.map] at failed

/-- On the path of the default form, failures name the column. -/
theorem Fails.of_default (fails : (default column k).Fails error direction) :
    ∃ reason, error = .default column reason := by
  cases direction with
  | write =>
    obtain ⟨value, failed⟩ := fails
    cases text : defaultText k value with
    | error reason =>
      obtain rfl : .default column reason = error := by
        simpa [default, text] using failed
      exact ⟨reason, rfl⟩
    | ok stored => simp [default, text] at failed
  | read =>
    obtain ⟨stored, failed⟩ := fails
    cases read : readDefault k stored with
    | error fault =>
      obtain rfl : .default column fault.message = error := by
        simpa [default, read, Except.map] using failed
      exact ⟨fault.message, rfl⟩
    | ok value => simp [default, read, Except.map] at failed

end Path

/-- A cell of the wrong kind is read from a column. -/
def MappingError.CellFault (error : MappingError) (column : String) (direction : Direction) :
    Prop :=
  direction = .read ∧ ∃ expected actual, error = .unexpectedCell column expected actual

namespace Registry

variable {registry : Registry κ} {column : String} {direction : Direction} {error : MappingError}

/-- A field fails with a cell of the wrong kind, or as its path fails. -/
theorem FieldFails.of_takes {path : Path k} (takes : registry.Takes column path)
    (fails : registry.FieldFails column k direction error) :
    error.CellFault column direction ∨ path.Fails error direction := by
  cases fails with
  | @put value row later error failed =>
    rw [takes.put] at failed
    cases value with
    | none => simp at failed
    | some value =>
      dsimp only at failed
      split at failed
      next e written =>
        obtain rfl := Except.error.inj (Prod.mk.inj failed).1
        exact .inr ⟨value, written⟩
      next => simp at failed
  | @putList values row later error failed =>
    rw [takes.putList] at failed
    split at failed
    next e written =>
      obtain rfl := Except.error.inj (Prod.mk.inj failed).1
      exact .inr (Path.fails_of_writeAll written)
    next => simp at failed
  | @putSet values row later error failed =>
    rw [takes.putSet] at failed
    split at failed
    next e written =>
      obtain rfl := Except.error.inj (Prod.mk.inj failed).1
      exact .inr (Path.fails_of_writeAll written)
    next => simp at failed
  | @get row error failed =>
    rw [takes.get] at failed
    split at failed
    next stored held => exact .inr ⟨stored, (Prod.mk.inj failed).1⟩
    next other _ held =>
      obtain rfl := Except.error.inj (Prod.mk.inj failed).1
      exact .inl ⟨rfl, _, _, rfl⟩
    next held => simp at failed
  | @getList row error failed =>
    rw [takes.getList] at failed
    split at failed
    next items held => exact .inr (Path.fails_of_readAll (Prod.mk.inj failed).1)
    next other _ held =>
      obtain rfl := Except.error.inj (Prod.mk.inj failed).1
      exact .inl ⟨rfl, _, _, rfl⟩
    next held => simp at failed
  | @getSet row error failed =>
    rw [takes.getSet] at failed
    split at failed
    next items held =>
      cases read : path.readAll items.toList with
      | error e =>
        obtain rfl : e = error := by simpa [read, Except.map] using failed
        exact .inr (Path.fails_of_readAll read)
      | ok values => simp [read, Except.map] at failed
    next other _ held =>
      obtain rfl := Except.error.inj (Prod.mk.inj failed).1
      exact .inl ⟨rfl, _, _, rfl⟩
    next held => simp at failed

theorem FieldFails.of_some {converter : Converter k}
    (registered : registry.find? k = some converter)
    (fails : registry.FieldFails column k direction error) :
    error.CellFault column direction ∨ ∃ cause, converter.GivesUp cause direction ∧
      error = .conversion (.conversion (typeName k) direction cause) :=
  (fails.of_takes (takes_custom registered column)).imp_right Path.Fails.of_custom

theorem FieldFails.of_none (unregistered : registry.find? k = none)
    (fails : registry.FieldFails column k direction error) :
    error.CellFault column direction ∨ ∃ reason, error = .default column reason :=
  (fails.of_takes (takes_default unregistered column)).imp_right Path.Fails.of_default

/-- A failed conversion of a field is one of its converter: never that there is none, and never that
the registry is put together wrongly. -/
theorem FieldFails.eq_conversion {inner : RegistryError}
    (fails : registry.FieldFails column k direction (.conversion inner)) :
    ∃ cause, inner = .conversion (typeName k) direction cause := by
  cases found : registry.find? k with
  | none =>
    rcases fails.of_none found with ⟨-, expected, actual, fault⟩ | ⟨reason, same⟩
    · cases fault
    · cases same
  | some converter =>
    rcases fails.of_some found with ⟨-, expected, actual, fault⟩ | ⟨cause, -, same⟩
    · cases fault
    · exact ⟨cause, MappingError.conversion.inj same⟩

end Registry

end Cellwise

import Cellwise.Catalog.Badge
import Cellwise.Proofs.Entity.Paths
import Cellwise.Proofs.Entity.Reading
import Cellwise.Proofs.Entity.Saving

/-!
# Where texts, values and failed conversions come from

A repository converts nothing by itself. The row that it files is filled by the calls of the entity,
and the value that it loads is what the plan of the entity comes to. If a call on it fails with a
failed conversion, then a field that the call writes or reads has failed so. In either case the path
of the field says how.

* `ReadPlan.Reaches` follows a plan field by field, as `WriteCall.Fills` does for calls;
  `ReadPlan.effect_run_eq_ok_iff` says that a plan succeeds exactly if its end is reached.
* `Action.FailsOnly` bounds the failures of an action, part by part.
* `RepositoryCall.failsOnly_perform` traces the failed conversions of a call back to a field.
* `Repository.fields_keep_to_their_path` puts together what is stored, loaded and reported on either
  path.
-/

namespace Cellwise

/-! ## Bounds on failures -/

namespace Action

variable {σ τ ε δ α β : Type}

/-- An action whose failures are all of some kind. -/
def FailsOnly (action : Action σ ε α) (kind : ε → Prop) : Prop :=
  ∀ (state later : σ) (e : ε), action.effect state = (.error e, later) → kind e

variable {kind : ε → Prop} {action : Action σ ε α} {next : α → Action σ ε β}

theorem FailsOnly.imp {other : ε → Prop} (fails : action.FailsOnly kind)
    (weaker : ∀ e, kind e → other e) : action.FailsOnly other := by
  intro state later e failed
  exact weaker e (fails state later e failed)

theorem failsOnly_pure (a : α) : (pure a : Action σ ε α).FailsOnly kind := by
  intro state later e failed
  simp at failed

theorem failsOnly_ofExcept {result : Except ε α} (failures : ∀ e, result = .error e → kind e) :
    (ofExcept result : Action σ ε α).FailsOnly kind := by
  intro state later e failed
  exact failures e (Prod.mk.inj failed).1

theorem FailsOnly.bind (fails : action.FailsOnly kind) (rest : ∀ a, (next a).FailsOnly kind) :
    (action >>= next).FailsOnly kind := by
  intro state later e failed
  rcases run : action.effect state with ⟨result, middle⟩
  cases result with
  | error e' =>
    rw [effect_bind_of_error run] at failed
    obtain rfl : e' = e := by simpa using (Prod.mk.inj failed).1
    exact fails state middle e' run
  | ok a =>
    rw [effect_bind_of_ok run] at failed
    exact rest a middle later e failed

theorem failsOnly_mapError {f : δ → ε} (failures : ∀ e, kind (f e)) (action : Action σ δ α) :
    (action.mapError f).FailsOnly kind := by
  intro state later e failed
  rw [effect_mapError] at failed
  rcases run : action.effect state with ⟨result, middle⟩
  cases result with
  | error e' =>
    obtain rfl : f e' = e := by simpa [run] using (Prod.mk.inj failed).1
    exact failures e'
  | ok a => simp [run] at failed

theorem FailsOnly.ofReport {report : Report ε α} (fails : report.FailsOnly kind) :
    (ofReport report : Action σ ε α).FailsOnly kind := by
  intro state later e failed
  rw [effect_ofReport] at failed
  exact fails () () e (Prod.ext (Prod.mk.inj failed).1 rfl)

theorem FailsOnly.inside {action : Action τ ε α} (fails : action.FailsOnly kind) (start : τ) :
    (inside start action : Action σ ε (α × τ)).FailsOnly kind := by
  intro state later e failed
  rcases run : action.effect start with ⟨result, last⟩
  cases result with
  | error e' =>
    rw [effect_inside_of_error run] at failed
    obtain rfl : e' = e := by simpa using (Prod.mk.inj failed).1
    exact fails start last e' run
  | ok a =>
    rw [effect_inside_of_ok run] at failed
    simp at failed

end Action

/-- Is it a conversion that failed? -/
def MappingError.OfConversion : MappingError → Prop
  | conversion _ | default _ _ => True
  | store _ | missingColumn _ | unexpectedCell _ _ _ => False

variable {κ : Type} [FieldFamily κ]

/-! ## Fields of entities -/

/-- A call writes a field of a column and type. -/
def WriteCall.Writes (column : String) (k : κ) : WriteCall κ → Prop
  | key _ _ => False
  | scalar other l _ | list other l _ | set other l _ => other = column ∧ l = k

/-- The calls that write a row fail only as their fields do. -/
theorem WriteCall.failsOnly_performAll (registry : Registry κ) (calls : List (WriteCall κ)) :
    (performAll registry calls).FailsOnly fun error =>
      ∃ call ∈ calls, ∃ column k, call.Writes column k ∧
        registry.FieldFails column k .write error := by
  induction calls with
  | nil => exact Action.failsOnly_pure ()
  | cons call calls ih =>
    refine Action.FailsOnly.bind ?_ fun _ => ih.imp ?_
    · intro row later error failed
      cases call with
      -- A key is written without being converted.
      | key column text => simp [effect_perform, cell?] at failed
      | scalar column k value =>
        exact ⟨_, List.mem_cons_self, column, k, ⟨rfl, rfl⟩, .put failed⟩
      | list column k values =>
        exact ⟨_, List.mem_cons_self, column, k, ⟨rfl, rfl⟩, .putList failed⟩
      | set column k values =>
        exact ⟨_, List.mem_cons_self, column, k, ⟨rfl, rfl⟩, .putSet failed⟩
    · rintro error ⟨other, mem, found⟩
      exact ⟨other, List.mem_cons_of_mem call mem, found⟩

/-- The first call that fails decides how the row of all calls fails. -/
theorem WriteCall.effect_performAll_of_error {registry : Registry κ} {before : List (WriteCall κ)}
    {call : WriteCall κ} {start row last : Row} {error : MappingError}
    (written : (performAll registry before).effect start = (.ok (), row))
    (failed : (call.perform registry).effect row = (.error error, last))
    (after : List (WriteCall κ)) :
    (performAll registry (before ++ call :: after)).effect start = (.error error, last) := by
  -- The calls in front succeed, each on the row that the one before it left.
  induction before generalizing start with
  | nil =>
    obtain rfl : start = row := (Prod.mk.inj written).2
    exact Action.effect_bind_of_error failed
  | cons first before ih =>
    rcases run : (first.perform registry).effect start with ⟨result, middle⟩
    cases result with
    | error e =>
      rw [performAll, Action.effect_bind_of_error run] at written
      simp at written
    | ok done =>
      rw [performAll, Action.effect_bind_of_ok run] at written
      rw [List.cons_append, performAll, Action.effect_bind_of_ok run]
      exact ih written

namespace ReadPlan

variable {α : Type}

/-- A plan that may read a field of a column and type. -/
def Reads (column : String) (k : κ) : ReadPlan κ α → Prop
  | done _ | fail _ => False
  | key _ next => ∃ text, (next text).Reads column k
  | scalar other l next => (other = column ∧ l = k) ∨ ∃ value, (next value).Reads column k
  | list other l next => (other = column ∧ l = k) ∨ ∃ values, (next values).Reads column k
  | set other l next => (other = column ∧ l = k) ∨ ∃ values, (next values).Reads column k

/-- A plan that makes up no failed conversions of its own. -/
def PassesOn : ReadPlan κ α → Prop
  | done _ => True
  | fail error => ¬error.OfConversion
  | key _ next => ∀ text, (next text).PassesOn
  | scalar _ _ next => ∀ value, (next value).PassesOn
  | list _ _ next => ∀ values, (next values).PassesOn
  | set _ _ next => ∀ values, (next values).PassesOn

/-- If a conversion failed, it was one of a field that the plan reads. -/
def Explains (registry : Registry κ) (plan : ReadPlan κ α) (error : MappingError) : Prop :=
  error.OfConversion → ∃ column k, plan.Reads column k ∧ registry.FieldFails column k .read error

variable {registry : Registry κ}

/-- A plan explains what a later part of it explains. -/
theorem Explains.of_part {plan part : ReadPlan κ α}
    (reads : ∀ column k, part.Reads column k → plan.Reads column k) (error : MappingError)
    (explains : part.Explains registry error) : plan.Explains registry error := by
  intro converts
  obtain ⟨column, k, read, fails⟩ := explains converts
  exact ⟨column, k, reads column k read, fails⟩

theorem explains_of_readKey {plan : ReadPlan κ α} {row : Row} {column : String}
    {error : MappingError} (failed : row.readKey column = .error error) :
    plan.Explains registry error := by
  intro converts
  rw [Row.readKey] at failed
  split at failed
  next => simp at failed
  next =>
    obtain rfl := Except.error.inj failed
    exact converts.elim
  next =>
    obtain rfl := Except.error.inj failed
    exact converts.elim

/-- A plan that passes failures on fails only with the failed conversions of its fields. -/
theorem failsOnly_run (registry : Registry κ) (row : Row) {plan : ReadPlan κ α}
    (passes : plan.PassesOn) : (plan.run registry row).FailsOnly (plan.Explains registry) := by
  -- At every field, either the field itself fails, or the rest of the plan does, whatever was read.
  induction plan with
  | done a => exact Action.failsOnly_pure a
  | fail error =>
    intro state later e failed converts
    obtain rfl : error = e := Except.error.inj (Prod.mk.inj failed).1
    exact absurd converts passes
  | key column next ih =>
    refine (Action.failsOnly_ofExcept fun e failed => explains_of_readKey failed).bind ?_
    intro text
    exact (ih text (passes text)).imp (Explains.of_part fun other l read => ⟨text, read⟩)
  | scalar column k next ih =>
    refine Action.FailsOnly.bind ?_ fun value => (ih value (passes value)).imp ?_
    · intro state later e failed converts
      exact ⟨column, k, .inl ⟨rfl, rfl⟩, .get failed⟩
    · exact Explains.of_part fun other l read => .inr ⟨value, read⟩
  | list column k next ih =>
    refine Action.FailsOnly.bind ?_ fun values => (ih values (passes values)).imp ?_
    · intro state later e failed converts
      exact ⟨column, k, .inl ⟨rfl, rfl⟩, .getList failed⟩
    · exact Explains.of_part fun other l read => .inr ⟨values, read⟩
  | set column k next ih =>
    refine Action.FailsOnly.bind ?_ fun values => (ih values (passes values)).imp ?_
    · intro state later e failed converts
      exact ⟨column, k, .inl ⟨rfl, rfl⟩, .getSet failed⟩
    · exact Explains.of_part fun other l read => .inr ⟨values, read⟩

/-- What is left of a plan when some of its fields have been read from a row. -/
inductive Reaches (registry : Registry κ) (row : Row) : ReadPlan κ α → ReadPlan κ α → Prop where
  | here (plan : ReadPlan κ α) : Reaches registry row plan plan
  | key {column text : String} {next : String → ReadPlan κ α} {part : ReadPlan κ α}
      (read : row.readKey column = .ok text) (reaches : Reaches registry row (next text) part) :
      Reaches registry row (.key column next) part
  | scalar {column : String} {k : κ} {value : Option (Value k)}
      {next : Option (Value k) → ReadPlan κ α} {part : ReadPlan κ α}
      (read : (row.readScalar registry column k).effect () = (.ok value, ()))
      (reaches : Reaches registry row (next value) part) :
      Reaches registry row (.scalar column k next) part
  | list {column : String} {k : κ} {values : List (Value k)}
      {next : List (Value k) → ReadPlan κ α} {part : ReadPlan κ α}
      (read : (row.readList registry column k).effect () = (.ok values, ()))
      (reaches : Reaches registry row (next values) part) :
      Reaches registry row (.list column k next) part
  | set {column : String} {k : κ} {values : List (Value k)}
      {next : List (Value k) → ReadPlan κ α} {part : ReadPlan κ α}
      (read : (row.readSet registry column k).effect () = (.ok values, ()))
      (reaches : Reaches registry row (next values) part) :
      Reaches registry row (.set column k next) part

/-- The next field of a plan cannot be read from a row. -/
def Stops (registry : Registry κ) (row : Row) (error : MappingError) : ReadPlan κ α → Prop
  | done _ | fail _ | key _ _ => False
  | scalar column k _ => (row.readScalar registry column k).effect () = (.error error, ())
  | list column k _ => (row.readList registry column k).effect () = (.error error, ())
  | set column k _ => (row.readSet registry column k).effect () = (.error error, ())

theorem effect_run_of_reaches {row : Row} {plan part : ReadPlan κ α}
    (reaches : Reaches registry row plan part) :
    (plan.run registry row).effect () = (part.run registry row).effect () := by
  induction reaches with
  | here plan => rfl
  | key read reaches ih => exact (effect_run_key _ read).trans ih
  | scalar read reaches ih => exact (effect_run_scalar _ read).trans ih
  | list read reaches ih => exact (effect_run_list _ read).trans ih
  | set read reaches ih => exact (effect_run_set _ read).trans ih

/-- A plan succeeds exactly if every field on the way to its end is read. -/
theorem effect_run_eq_ok_iff {row : Row} {plan : ReadPlan κ α} {a : α} :
    (plan.run registry row).effect () = (.ok a, ()) ↔ Reaches registry row plan (.done a) := by
  constructor
  · intro ok
    induction plan with
    | done b =>
      obtain rfl : b = a := Except.ok.inj (Prod.mk.inj ok).1
      exact .here _
    | fail error => cases (Prod.mk.inj ok).1
    | key column next ih =>
      obtain ⟨text, last, read, rest⟩ := Action.effect_bind_eq_ok_iff.1 ok
      exact .key (Prod.mk.inj read).1 (ih text rest)
    | scalar column k next ih =>
      obtain ⟨value, last, read, rest⟩ := Action.effect_bind_eq_ok_iff.1 ok
      exact .scalar read (ih value rest)
    | list column k next ih =>
      obtain ⟨values, last, read, rest⟩ := Action.effect_bind_eq_ok_iff.1 ok
      exact .list read (ih values rest)
    | set column k next ih =>
      obtain ⟨values, last, read, rest⟩ := Action.effect_bind_eq_ok_iff.1 ok
      exact .set read (ih values rest)
  · intro reaches
    exact effect_run_of_reaches reaches

/-- The first field that cannot be read decides how the plan fails. -/
theorem effect_run_of_stops {row : Row} {plan part : ReadPlan κ α} {error : MappingError}
    (reaches : Reaches registry row plan part) (stops : part.Stops registry row error) :
    (plan.run registry row).effect () = (.error error, ()) := by
  rw [effect_run_of_reaches reaches]
  cases part with
  | done a => exact stops.elim
  | fail e => exact stops.elim
  | key column next => exact stops.elim
  | scalar column k next => exact Action.effect_bind_of_error stops
  | list column k next => exact Action.effect_bind_of_error stops
  | set column k next => exact Action.effect_bind_of_error stops

end ReadPlan

/-! ## Calls on a repository -/

namespace RepositoryCall

variable {α : Type}

/-- A call converts a field of a column and type in one direction. -/
def Converts (column : String) (k : κ) (direction : Direction) : RepositoryCall κ α → Prop
  | store _ | prepare _ => False
  | insert entity value | update entity value =>
    direction = .write ∧ ∃ call ∈ entity.writes value, call.Writes column k
  | selectOne entity _ | selectOneColumns entity _ _ =>
    direction = .read ∧ entity.reads.Reads column k

/-- A call whose entity makes up no failed conversions of its own. -/
def PassesOn : RepositoryCall κ α → Prop
  | store _ | prepare _ | insert _ _ | update _ _ => True
  | selectOne entity _ | selectOneColumns entity _ _ => entity.reads.PassesOn

/-- If a conversion failed, it was one of a field that the call converts. -/
def Explains (registry : Registry κ) (call : RepositoryCall κ α) (error : MappingError) : Prop :=
  error.OfConversion → ∃ column k direction,
    call.Converts column k direction ∧ registry.FieldFails column k direction error

theorem explains_store (registry : Registry κ) (call : RepositoryCall κ α) (error : StoreError) :
    call.Explains registry (.store error) := fun converts => converts.elim

/-- A call explains what the plan of its entity explains. -/
theorem explains_of_plan {registry : Registry κ} {call : RepositoryCall κ α}
    {plan : ReadPlan κ α}
    (reads : ∀ column k, plan.Reads column k → call.Converts column k .read) (error : MappingError)
    (explains : plan.Explains registry error) : call.Explains registry error := by
  intro converts
  obtain ⟨column, k, read, fails⟩ := explains converts
  exact ⟨column, k, .read, reads column k read, fails⟩

end RepositoryCall

namespace Repository

variable {α : Type} (repository : Repository κ) (entity : Entity κ α)

theorem failsOnly_onKeyspace {kind : MappingError → Prop} (failures : ∀ error, kind (.store error))
    (action : StoreAction α) : (onKeyspace action).FailsOnly kind :=
  Action.failsOnly_mapError failures action

theorem failsOnly_prepare {kind : MappingError → Prop} (failures : ∀ error, kind (.store error)) :
    (repository.prepare entity).FailsOnly kind := by
  have truncating : (if repository.settings.truncateOnSetup = true then
      onKeyspace (Keyspace.truncate entity.layout.name) else pure ()).FailsOnly kind := by
    split
    next => exact failsOnly_onKeyspace failures _
    next => exact Action.failsOnly_pure ()
  rw [prepare]
  split
  next => exact (failsOnly_onKeyspace failures _).bind fun _ => truncating
  next => exact truncating

/-- Whatever may be said of the failures of the keyspace and of the fields of an entity may be said
of the failures of saving it. -/
theorem failsOnly_saveWith {kind : MappingError → Prop} (failures : ∀ error, kind (.store error))
    (message : String) (store : String → Row → StoreAction Unit) (value : α)
    (fields : ∀ error, ∀ call ∈ entity.writes value, ∀ column k, call.Writes column k →
      repository.registry.FieldFails column k .write error → kind error) :
    (saveWith message store entity value
      (WriteCall.performAll repository.registry (entity.writes value))).FailsOnly kind := by
  have writing := (WriteCall.failsOnly_performAll repository.registry (entity.writes value)).imp
    fun error ⟨call, mem, column, k, writes, fails⟩ => fields error call mem column k writes fails
  refine ((writing.inside ∅).bind fun _ => Action.failsOnly_pure _).ofReport.bind fun row => ?_
  have noting : (logSaving message entity value row).FailsOnly kind := by
    intro keyspace later error failed
    simp [effect_logSaving] at failed
  exact noting.bind fun _ => failsOnly_onKeyspace failures _

theorem failsOnly_load {kind : MappingError → Prop} (failures : ∀ error, kind (.store error))
    (reading : ∀ row, (repository.fromRow entity row).FailsOnly kind)
    (action : StoreAction (Option Row)) :
    (onKeyspace action >>= repository.load entity).FailsOnly kind := by
  refine (failsOnly_onKeyspace failures action).bind fun row => ?_
  cases row with
  | none => exact Action.failsOnly_pure none
  | some row => exact (reading row).ofReport.bind fun value => Action.failsOnly_pure (some value)

end Repository

/-- A call that passes failures on fails only with the failed conversions of its fields. -/
theorem RepositoryCall.failsOnly_perform {α : Type} (repository : Repository κ)
    {call : RepositoryCall κ α} (passes : call.PassesOn) :
    (call.perform repository).FailsOnly (call.Explains repository.registry) := by
  have failures := call.explains_store repository.registry
  cases call with
  | store call =>
    exact (Repository.failsOnly_onKeyspace failures _).bind fun _ => Action.failsOnly_pure _
  | prepare entity =>
    exact (repository.failsOnly_prepare entity failures).bind fun _ => Action.failsOnly_pure _
  | insert entity value =>
    refine Action.FailsOnly.bind ?_ fun _ => Action.failsOnly_pure _
    refine repository.failsOnly_saveWith entity failures "insert" Keyspace.upsert value ?_
    intro error call mem column k writes fails converts
    exact ⟨column, k, .write, ⟨rfl, call, mem, writes⟩, fails⟩
  | update entity value =>
    refine Action.FailsOnly.bind ?_ fun _ => Action.failsOnly_pure _
    refine repository.failsOnly_saveWith entity failures "update" Keyspace.replace value ?_
    intro error call mem column k writes fails converts
    exact ⟨column, k, .write, ⟨rfl, call, mem, writes⟩, fails⟩
  | selectOne entity key =>
    refine Action.FailsOnly.bind ?_ fun _ => Action.failsOnly_pure _
    refine repository.failsOnly_load entity failures (fun row => ?_) _
    have reading := ReadPlan.failsOnly_run repository.registry row passes
    exact reading.imp (explains_of_plan fun column k reads => ⟨rfl, reads⟩)
  | selectOneColumns entity key columns =>
    refine Action.FailsOnly.bind ?_ fun _ => Action.failsOnly_pure _
    refine repository.failsOnly_load entity failures (fun row => ?_) _
    have reading := ReadPlan.failsOnly_run repository.registry row passes
    exact reading.imp (explains_of_plan fun column k reads => ⟨rfl, reads⟩)

namespace Repository

variable {α : Type} {repository : Repository κ} {entity : Entity κ α} {error : MappingError}

theorem effect_insert_of_error {value : α}
    (failed : (repository.toRow entity value).effect () = (.error error, ()))
    (keyspace : Keyspace) :
    (repository.insert entity value).effect keyspace = (.error error, keyspace) := by
  rw [insert_eq_saveWith, effect_saveWith, failed]

theorem effect_update_of_error {value : α}
    (failed : (repository.toRow entity value).effect () = (.error error, ()))
    (keyspace : Keyspace) :
    (repository.update entity value).effect keyspace = (.error error, keyspace) := by
  rw [update_eq_saveWith, effect_saveWith, failed]

theorem effect_load_of_error {action : StoreAction (Option Row)} {keyspace : Keyspace} {row : Row}
    (selected : action.effect keyspace = (.ok (some row), keyspace))
    (failed : (repository.fromRow entity row).effect () = (.error error, ())) :
    (onKeyspace action >>= repository.load entity).effect keyspace = (.error error, keyspace) := by
  rw [effect_load_selected selected, loaded, failed]
  rfl

/-- What is loaded of a row, if there is one, is what the plan of the entity comes to, field by
field. -/
def Yields (repository : Repository κ) (entity : Entity κ α) : Option Row → Option α → Prop :=
  Option.Rel fun row value => entity.reads.Reaches repository.registry row (.done value)

theorem loaded_eq_ok_iff {slot : Option Row} {answer : Option α} :
    repository.loaded entity slot = .ok answer ↔ repository.Yields entity slot answer := by
  constructor
  · intro loads
    cases answer with
    | none =>
      cases slot with
      | none => exact .none
      | some row =>
        rw [loaded] at loads
        cases read : ((repository.fromRow entity row).effect ()).1 <;>
          simp [read, Except.map] at loads
    | some value =>
      obtain ⟨row, rfl, read⟩ := loaded_eq_some loads
      exact .some (ReadPlan.effect_run_eq_ok_iff.1 read)
  · intro yields
    cases yields with
    | none => rfl
    | some reaches => exact loaded_of_ok (ReadPlan.effect_run_eq_ok_iff.2 reaches)

/-- The row of an entity is written exactly if its calls fill it. -/
theorem effect_toRow_eq_ok_iff_fills {value : α} {row : Row} :
    (repository.toRow entity value).effect () = (.ok row, ()) ↔
      WriteCall.Fills repository.registry (entity.writes value) ∅ row :=
  effect_toRow_eq_ok_iff.trans WriteCall.fills_iff.symm

/-- A type with a converter is stored, loaded and reported on by the converter alone, and a type
without one by its default form alone; keys are not converted. An entity is saved exactly if each of
its calls writes its field so and the table admits the row, which is then filed; and it is loaded
exactly if each field of its plan is read so. The failed conversions of a repository are those of a
field, unless an entity makes up its own, and a field that fails on the way makes the call fail
so. -/
theorem fields_keep_to_their_path (repository : Repository κ) :
    (∀ (k : κ) (converter : Converter k), repository.registry.find? k = some converter →
      ∀ column,
        repository.registry.Takes column (Path.custom repository.registry.options converter) ∧
        ∀ direction error, repository.registry.FieldFails column k direction error →
          error.CellFault column direction ∨ ∃ cause, converter.GivesUp cause direction ∧
            error = .conversion (.conversion (typeName k) direction cause)) ∧
    (∀ k : κ, repository.registry.find? k = none →
      ∀ column, repository.registry.Takes column (Path.default column k) ∧
        ∀ direction error, repository.registry.FieldFails column k direction error →
          error.CellFault column direction ∨ ∃ reason, error = .default column reason) ∧
    (∀ column k direction inner,
      repository.registry.FieldFails column k direction (.conversion inner) →
        ∃ cause, inner = .conversion (typeName k) direction cause) ∧
    (∀ (column text : String) (row : Row),
      ((WriteCall.key column text).perform repository.registry).effect row =
          (.ok (), row.insert column (.text text)) ∧
        (row.readKey column = .ok text ↔ row[column]? = some (.text text))) ∧
    (∀ (entity : Entity κ α) (value : α) (keyspace later : Keyspace),
      ((repository.insert entity value).effect keyspace = (.ok (), later) ↔
        ∃ row key record, WriteCall.Fills repository.registry (entity.writes value) ∅ row ∧
          keyspace.Admits entity.layout.name key row ∧
          keyspace.Files entity.layout.name key record later ∧
          ∀ column : String, record[column]? =
            row[column]?.or ((keyspace.record? entity.layout.name key).bind (·[column]?))) ∧
      ((repository.update entity value).effect keyspace = (.ok (), later) ↔
        ∃ row key, WriteCall.Fills repository.registry (entity.writes value) ∅ row ∧
          keyspace.Admits entity.layout.name key row ∧
          keyspace.Files entity.layout.name key row later)) ∧
    (∀ (entity : Entity κ α) (key : String) (keyspace later : Keyspace) (answer : Option α),
      ((repository.selectOne entity key).effect keyspace = (.ok answer, later) ↔
        later = keyspace ∧ ∃ table, keyspace.tables[entity.layout.name]? = some table ∧
          repository.Yields entity table.rows[key]? answer) ∧
      ∀ columns, (repository.selectOneColumns entity key columns).effect keyspace =
          (.ok answer, later) ↔
        later = keyspace ∧ ∃ table, keyspace.tables[entity.layout.name]? = some table ∧
          (∀ column ∈ columns, column ∈ table.layout.columnNames) ∧
          repository.Yields entity (table.rows[key]?.map (·.project columns)) answer) ∧
    (∀ (call : RepositoryCall κ α) (keyspace later : Keyspace) (error : MappingError),
      call.PassesOn → (call.perform repository).effect keyspace = (.error error, later) →
        error.OfConversion → ∃ column k direction, call.Converts column k direction ∧
          repository.registry.FieldFails column k direction error) ∧
    (∀ (entity : Entity κ α) (value : α) (before after : List (WriteCall κ)) (call : WriteCall κ)
      (row last : Row) (error : MappingError),
      entity.writes value = before ++ call :: after →
      WriteCall.Fills repository.registry before ∅ row →
      (call.perform repository.registry).effect row = (.error error, last) →
        ∀ keyspace, (repository.insert entity value).effect keyspace = (.error error, keyspace) ∧
          (repository.update entity value).effect keyspace = (.error error, keyspace)) ∧
    ∀ (entity : Entity κ α) (key : String) (keyspace : Keyspace) (row : Row)
      (part : ReadPlan κ α) (error : MappingError),
      entity.reads.Reaches repository.registry row part →
      part.Stops repository.registry row error →
        ((Keyspace.select entity.layout.name key none).effect keyspace =
            (.ok (some row), keyspace) →
          (repository.selectOne entity key).effect keyspace = (.error error, keyspace)) ∧
        ∀ columns, (Keyspace.select entity.layout.name key (some columns)).effect keyspace =
            (.ok (some row), keyspace) →
          (repository.selectOneColumns entity key columns).effect keyspace =
            (.error error, keyspace) := by
  refine ⟨?custom, ?default, fun column k direction inner fails => fails.eq_conversion, ?keys,
    ?saved, ?loaded, ?explained, ?unsaved, ?unloaded⟩
  case custom =>
    intro k converter registered column
    exact ⟨takes_custom registered column, fun direction error fails => fails.of_some registered⟩
  case default =>
    intro k unregistered column
    exact ⟨takes_default unregistered column, fun direction error fails =>
      fails.of_none unregistered⟩
  case keys =>
    intro column text row
    exact ⟨rfl, Row.readKey_eq_ok_iff⟩
  case saved =>
    intro entity value keyspace later
    simp only [← effect_toRow_eq_ok_iff_fills]
    exact ⟨effect_insert_eq_ok_iff, effect_update_eq_ok_iff⟩
  case loaded =>
    intro entity key keyspace later answer
    simp only [← loaded_eq_ok_iff]
    exact ⟨effect_selectOne_eq_ok_iff, fun columns => effect_selectOneColumns_eq_ok_iff⟩
  case explained =>
    intro call keyspace later error passes failed
    exact RepositoryCall.failsOnly_perform repository passes keyspace later error failed
  case unsaved =>
    intro entity value before after call row last error split fills failed keyspace
    have written := WriteCall.fills_iff.1 fills
    have stopped := WriteCall.effect_performAll_of_error written failed after
    rw [← split] at stopped
    have unwritten := effect_toRow_of_error stopped
    exact ⟨effect_insert_of_error unwritten keyspace, effect_update_of_error unwritten keyspace⟩
  case unloaded =>
    intro entity key keyspace row part error reaches stops
    have unread : (repository.fromRow entity row).effect () = (.error error, ()) :=
      ReadPlan.effect_run_of_stops reaches stops
    exact ⟨fun selected => effect_load_of_error selected unread,
      fun columns selected => effect_load_of_error selected unread⟩

/-- A converter for strings that gives up because it misses another converter: its strings are
neither stored nor loaded in their default form, while numbers are. And one that succeeds: what it
writes is stored, and what it reads is loaded, though it is another string than the one stored. -/
theorem fields_keep_to_their_path_badges :
    let cause : Cause := .registry (.noConverter "Secret")
    let stubborn : Converter FieldType.string := ⟨fun _ => .error cause, fun _ => .error cause⟩
    let painter : Converter FieldType.string :=
      ⟨fun _ => .ok "blue", fun label => .ok ("<" ++ label ++ ">")⟩
    let repository : Repository FieldType := ⟨⟨[⟨.string, stubborn⟩], {}⟩, {}⟩
    let painting : Repository FieldType := ⟨⟨[⟨.string, painter⟩], {}⟩, {}⟩
    let failure (direction : Direction) : MappingError :=
      .conversion (.conversion (typeName FieldType.string) direction cause)
    let row : Row := ((∅ : Row).insert "id" (.text "a")).insert "label" (.text "red")
    let rows : Std.ExtTreeMap String Row := ∅
    let table : Table := { layout := Badge.entity.layout, rows := rows.insert "a" row }
    let keyspace := Keyspace.withTable { name := "kcc", tables := ∅ } "badge" (some table)
    let insert : RepositoryCall FieldType Badge := .insert Badge.entity ⟨"a", some "red"⟩
    ((WriteCall.scalar "count" FieldType.u8 (some (7 : UInt8))).perform
        repository.registry).effect ∅ = (.ok (), (∅ : Row).insert "count" (.text "7")) ∧
      ((WriteCall.list "labels" FieldType.string ["red"]).perform repository.registry).effect ∅ =
        (.error (failure .write), ∅) ∧
      (repository.insert Badge.entity ⟨"a", some "red"⟩).effect keyspace =
        (.error (failure .write), keyspace) ∧
      (∃ column k direction, insert.Converts column k direction ∧
        repository.registry.FieldFails column k direction (failure .write)) ∧
      (repository.selectOne Badge.entity "a").effect keyspace =
        (.error (failure .read), keyspace) ∧
      (∃ later, (painting.insert Badge.entity ⟨"b", some "green"⟩).effect keyspace =
          (.ok (), later) ∧
        later.record? "badge" "b" =
          some (((∅ : Row).insert "id" (.text "b")).insert "label" (.text "<green>"))) ∧
      (painting.selectOne Badge.entity "a").effect keyspace =
        (.ok (some ⟨"a", some "blue"⟩), keyspace) := by
  intro cause stubborn painter repository painting failure row rows table keyspace insert
  obtain ⟨custom, default, -, -, -, -, explained, unsaved, unloaded⟩ :=
    fields_keep_to_their_path (α := Badge) repository
  obtain ⟨painted, -, -, keys, saved, loaded, -⟩ := fields_keep_to_their_path (α := Badge) painting
  have strings := fun column => (custom .string stubborn rfl column).1
  have labels := (painted .string painter rfl "label").1
  have held : keyspace.tables["badge"]? = some table := Keyspace.getElem?_tables_withTable_self ..
  have stored : table.rows["a"]? = some row := by simp [table]
  have key : row.readKey "id" = .ok "a" := rfl
  have refused : ((WriteCall.scalar "label" FieldType.string (some "red")).perform
      repository.registry).effect ((∅ : Row).insert "id" (.text "a")) =
        (.error (failure .write), (∅ : Row).insert "id" (.text "a")) :=
    (strings "label").put (some "red") _
  have unsaved := (unsaved Badge.entity ⟨"a", some "red"⟩ [.key "id" "a"] [] _ _ _ _ rfl
    (.cons rfl (.nil _)) refused keyspace).1
  have unread : (row.readScalar repository.registry "label" FieldType.string).effect () =
      (.error (failure .read), ()) :=
    (strings "label").get row
  refine ⟨?number, (strings "labels").putList ["red"] ∅, unsaved, ?cause, ?unread, ?painted,
    ?read⟩
  case number => exact (default .u8 rfl "count").1.put (some (7 : UInt8)) ∅
  case cause =>
    refine explained insert keyspace keyspace (failure .write) trivial ?_ trivial
    exact Action.effect_bind_of_error unsaved
  case unread =>
    have selected : (Keyspace.select "badge" "a" none).effect keyspace =
        (.ok (some row), keyspace) := by
      rw [Keyspace.effect_select held "a", stored]
    have reaches : Badge.entity.reads.Reaches repository.registry row
        (.scalar "label" FieldType.string fun label => .done ⟨"a", label⟩) := .key key (.here _)
    exact (unloaded Badge.entity "a" keyspace row _ (failure .read) reaches unread).1 selected
  case painted =>
    let green : Row := ((∅ : Row).insert "id" (.text "b")).insert "label" (.text "<green>")
    have fills : WriteCall.Fills painting.registry (Badge.entity.writes ⟨"b", some "green"⟩) ∅
        green := .cons (keys "id" "b" ∅).1 (.cons (labels.put (some "green") _) (.nil _))
    have admits : table.layout.Admits "b" green :=
      (table.checkRow_eq_ok_iff green "b").1 (by decide)
    have files := Keyspace.files_withTable held "b" green
    refine ⟨_, (saved Badge.entity ⟨"b", some "green"⟩ keyspace _).1.2
      ⟨green, "b", green, fills, ⟨table, held, admits⟩, files, ?_⟩, files.record_eq⟩
    intro column
    have fresh : keyspace.record? "badge" "b" = none := by
      rw [Keyspace.record?_of_held held]
      simp [table, rows]
    exact fresh ▸ (Option.or_none ..).symm
  case read =>
    have blue : (row.readScalar painting.registry "label" FieldType.string).effect () =
        (.ok (some "blue"), ()) := labels.get row
    refine (loaded Badge.entity "a" keyspace keyspace _).1.2 ⟨rfl, table, held, ?_⟩
    rw [stored]
    exact .some (.key key (.scalar blue (.here _)))

end Repository

end Cellwise

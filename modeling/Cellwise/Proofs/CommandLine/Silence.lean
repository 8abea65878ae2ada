import Cellwise.Proofs.CommandLine.Output

/-!
# What prints nothing

Only commands print. Registries convert, keyspaces store, and repositories save and load without a
word, whatever they are asked and whether or not they succeed.
-/

namespace Cellwise

open Cellwise.Action

variable {κ : Type} [FieldFamily κ]

/-! ## Registries -/

namespace RegistryBuilder

theorem silent_register (added : SomeConverter κ) : (register added).Silent := by
  refine .bind silent_get fun builder => ?_
  cases findConverter added.1 builder.converters with
  | some _ => exact silent_fail _
  | none => exact .bind (silent_log ..) fun _ => silent_modify _

theorem silent_build : (build : Action (RegistryBuilder κ) RegistryError (Registry κ)).Silent :=
  .bind silent_get fun _ => .bind (silent_log ..) fun _ => silent_pure _

end RegistryBuilder

theorem silent_staffRegistry (options : RegistryOptions) : (staffRegistry options).Silent :=
  .bind
    (.inside (.bind (RegistryBuilder.silent_register _) fun _ => RegistryBuilder.silent_build) _)
    fun _ => silent_pure _

theorem Registry.silent_read (registry : Registry κ) (k : κ) (source : String) :
    (registry.read k source).Silent := by
  unfold Registry.read
  cases registry.find? k with
  | none => exact silent_fail _
  | some converter =>
    dsimp only
    split
    -- A blank source is noted in the log, any other goes to the reader.
    next => exact .bind (silent_log ..) fun _ => silent_pure _
    next =>
      exact .bind (silent_readerCall ..) fun _ => .bind (silent_ofExcept _) fun _ => silent_pure _

theorem silent_decodeField (registry : Registry κ) (column : String) (k : κ) (stored : String) :
    (decodeField registry column k stored).Silent := by
  refine .bind (registry.silent_read k stored).attempt fun result => ?_
  match result with
  | .ok _ => exact silent_pure _
  | .error (.noConverter _) => exact .bind (silent_ofExcept _) fun _ => silent_pure _
  | .error (.configuration _) | .error (.conversion _ _ _) => exact silent_fail _

/-! ## Rows -/

namespace Row

variable (registry : Registry κ) (row : Row) (column : String) (k : κ)

theorem silent_readScalar : (row.readScalar registry column k).Silent := by
  unfold readScalar
  split
  next => exact silent_decodeField ..
  next => exact silent_fail _
  next => exact silent_pure _

theorem silent_readItems (items : List String) : (readItems registry column k items).Silent := by
  induction items with
  | nil => exact silent_pure _
  | cons stored rest ih =>
    refine .bind (silent_decodeField ..) fun value => ?_
    cases value with
    | some value => exact .bind ih fun _ => silent_pure _
    | none => exact .bind (silent_log ..) fun _ => ih

theorem silent_readList : (row.readList registry column k).Silent := by
  unfold readList
  split
  next => exact silent_readItems ..
  next => exact silent_fail _
  next => exact silent_pure _

theorem silent_readSet : (row.readSet registry column k).Silent := by
  unfold readSet
  split
  next => exact .bind (silent_readItems ..) fun _ => silent_pure _
  next => exact silent_fail _
  next => exact silent_pure _

end Row

theorem ReadPlan.silent_run {α : Type} (registry : Registry κ) (row : Row) (plan : ReadPlan κ α) :
    (plan.run registry row).Silent := by
  induction plan with
  | done a => exact silent_pure a
  | fail error => exact silent_fail error
  | key column next ih => exact .bind (silent_ofExcept _) ih
  | scalar column k next ih => exact .bind (row.silent_readScalar registry column k) ih
  | list column k next ih => exact .bind (row.silent_readList registry column k) ih
  | set column k next ih => exact .bind (row.silent_readSet registry column k) ih

namespace WriteCall

theorem silent_perform (registry : Registry κ) (call : WriteCall κ) :
    (call.perform registry).Silent := by
  cases call with
  | key column text => exact silent_modify _
  | scalar column k value =>
    cases value with
    | none => exact silent_pure _
    | some value => exact .bind (silent_ofExcept _) fun _ => silent_modify _
  | list column k values | set column k values =>
    refine .bind (silent_ofExcept _) fun stored => ?_
    split
    next => exact silent_pure _
    next => exact silent_modify _

theorem silent_performAll (registry : Registry κ) (calls : List (WriteCall κ)) :
    (performAll registry calls).Silent := by
  induction calls with
  | nil => exact silent_pure _
  | cons call calls ih => exact .bind (call.silent_perform registry) fun _ => ih

end WriteCall

theorem Row.silent_ofCalls (registry : Registry κ) (calls : List (WriteCall κ)) :
    (Row.ofCalls registry calls).Silent :=
  .bind (.inside (WriteCall.silent_performAll registry calls) _) fun _ => silent_pure _

/-! ## Keyspaces -/

namespace Keyspace

theorem silent_openEmpty (settings : KeyspaceSettings) : (openEmpty settings).Silent :=
  .bind (silent_ofExcept _) fun _ => .bind (silent_log ..) fun _ => silent_pure _

theorem silent_findTable (name : String) : (findTable name).Silent := by
  refine .bind silent_get fun keyspace => ?_
  cases keyspace.tables[name]? with
  | some table => exact silent_pure table
  | none => exact silent_fail _

theorem silent_createTable (layout : TableLayout) : (createTable layout).Silent := by
  refine .bind silent_get fun keyspace => ?_
  split
  next => exact silent_pure _
  next => exact .bind (silent_log ..) fun _ => .bind (silent_modify _) fun _ => silent_pure _

theorem silent_truncate (name : String) : (truncate name).Silent :=
  .bind (silent_findTable name) fun _ => .bind (silent_log ..) fun _ => silent_modify _

theorem silent_upsert (name : String) (row : Row) : (upsert name row).Silent :=
  .bind (silent_findTable name) fun _ => .bind (silent_ofExcept _) fun _ => silent_modify _

theorem silent_replace (name : String) (row : Row) : (replace name row).Silent :=
  .bind (silent_findTable name) fun _ => .bind (silent_ofExcept _) fun _ => silent_modify _

theorem silent_select (name key : String) (columns : Option (List String)) :
    (select name key columns).Silent := by
  refine .bind (silent_findTable name) fun table => ?_
  cases columns with
  | none => exact silent_pure _
  | some columns => exact .bind (silent_ofExcept _) fun _ => silent_pure _

end Keyspace

/-! ## Repositories -/

namespace Repository

variable {α : Type} (repository : Repository κ) (entity : Entity κ α)

theorem silent_onKeyspace {action : StoreAction α} (silent : action.Silent) :
    (onKeyspace action).Silent := silent.mapError _

theorem silent_prepare : (repository.prepare entity).Silent := by
  have created := silent_onKeyspace (Keyspace.silent_createTable entity.layout)
  have truncated := silent_onKeyspace (Keyspace.silent_truncate entity.layout.name)
  -- Either setting leaves out a step.
  unfold prepare
  cases repository.settings.createTables <;> cases repository.settings.truncateOnSetup
  case false.false => exact silent_pure _
  case false.true => exact truncated
  case true.false => exact created.bind fun _ => silent_pure _
  case true.true => exact created.bind fun _ => truncated

theorem silent_insert (value : α) : (repository.insert entity value).Silent :=
  .bind (.ofReport (Row.silent_ofCalls ..)) fun _ =>
    .bind (silent_log ..) fun _ => silent_onKeyspace (Keyspace.silent_upsert ..)

theorem silent_update (value : α) : (repository.update entity value).Silent :=
  .bind (.ofReport (Row.silent_ofCalls ..)) fun _ =>
    .bind (silent_log ..) fun _ => silent_onKeyspace (Keyspace.silent_replace ..)

theorem silent_selectOne (key : String) : (repository.selectOne entity key).Silent := by
  refine (silent_onKeyspace (Keyspace.silent_select ..)).bind fun row => ?_
  cases row with
  | none => exact silent_pure _
  | some row => exact .bind (.ofReport (ReadPlan.silent_run ..)) fun _ => silent_pure _

theorem silent_selectRow (table key : String) (columns : List String) :
    (selectRow table key columns).Silent := silent_onKeyspace (Keyspace.silent_select ..)

end Repository

end Cellwise

import Cellwise.Catalog.Glitch
import Cellwise.Proofs.Entity.Repository

/-!
# Failures leave no trace

An action is atomic if it leaves its state alone whenever it fails. Every call on a keyspace is
atomic, because it fails, if at all, before it stores anything; and so is every call on a
repository, because the row of an entity is written before the keyspace is asked.

* `StoreCall.atomic_perform` and `RepositoryCall.atomic_perform` say this of single calls.
* `RepositoryCall.failure_leaves_no_trace` says what follows for a run of calls: a call that fails
  might as well not have been made.
-/

namespace Cellwise

namespace Action

variable {σ ε δ α β : Type}

/-- An action that leaves its state alone whenever it fails. -/
def Atomic (action : Action σ ε α) : Prop :=
  ∀ (state later : σ) (e : ε), action.effect state = (.error e, later) → later = state

/-- An action that leaves its state alone in any case. -/
def Keeps (action : Action σ ε α) : Prop :=
  ∀ state : σ, (action.effect state).2 = state

theorem Keeps.atomic {action : Action σ ε α} (keeps : action.Keeps) : action.Atomic := by
  intro state later e failed
  have kept := keeps state
  rwa [failed] at kept

theorem keeps_ofReport (report : Report ε α) : (ofReport report : Action σ ε α).Keeps := by
  intro state
  rw [effect_ofReport]

theorem keeps_pure (a : α) : (pure a : Action σ ε α).Keeps := by
  intro state
  rw [effect_pure]

section Composed

variable {first : Action σ ε α} {next : α → Action σ ε β}

/-- Behind something that leaves the state alone, only what comes then can leave a trace. -/
theorem Keeps.bind_atomic (keeps : first.Keeps) (atomic : ∀ a, (next a).Atomic) :
    (first >>= next).Atomic := by
  intro state later e failed
  rcases run : first.effect state with ⟨result, middle⟩
  obtain rfl : middle = state := by simpa [run] using keeps state
  cases result with
  | error e =>
    rw [effect_bind_of_error run] at failed
    exact (Prod.mk.inj failed).2.symm
  | ok a =>
    rw [effect_bind_of_ok run] at failed
    exact atomic a _ later e failed

theorem Keeps.bind (keeps : first.Keeps) (keeps' : ∀ a, (next a).Keeps) :
    (first >>= next).Keeps := by
  intro state
  rcases run : first.effect state with ⟨result, middle⟩
  obtain rfl : middle = state := by simpa [run] using keeps state
  cases result with
  | error e => rw [effect_bind_of_error run]
  | ok a =>
    rw [effect_bind_of_ok run]
    exact keeps' a _

theorem Atomic.bind_pure (atomic : first.Atomic) (f : α → β) :
    (first >>= fun a => pure (f a)).Atomic := by
  intro state later e failed
  rcases run : first.effect state with ⟨result, middle⟩
  cases result with
  | error e' =>
    rw [effect_bind_of_error run] at failed
    obtain rfl : middle = later := (Prod.mk.inj failed).2
    exact atomic state middle e' run
  | ok a =>
    rw [effect_bind_of_ok run, effect_pure] at failed
    simp at failed

/-- Answering in other words does not hide a trace. -/
theorem atomic_of_bind_pure {f : α → β} (atomic : (first >>= fun a => pure (f a)).Atomic) :
    first.Atomic := by
  intro state later e failed
  exact atomic state later e (effect_bind_of_error failed)

theorem Atomic.mapError (atomic : first.Atomic) (f : ε → δ) : (first.mapError f).Atomic := by
  intro state later e failed
  rw [effect_mapError] at failed
  rcases run : first.effect state with ⟨result, middle⟩
  cases result with
  | error e' =>
    obtain rfl : middle = later := by simpa [run] using (Prod.mk.inj failed).2
    exact atomic state middle e' run
  | ok a => simp [run] at failed

theorem Keeps.mapError (keeps : first.Keeps) (f : ε → δ) : (first.mapError f).Keeps := by
  intro state
  rw [effect_mapError]
  exact keeps state

end Composed

end Action

/-! ## Calls on a keyspace -/

namespace StoreCall

/-- A call that fails puts back the table that it found, or finds none. -/
theorem onTable_of_error {call : StoreCall} {slot : Option Table} {e : StoreError}
    (failed : (call.onTable slot).1 = .error e) : (call.onTable slot).2 = slot := by
  cases slot with
  | none => cases call <;> simp [onTable, onAbsent] at failed ⊢
  | some present =>
    cases call with
    | upsert name row =>
      cases checked : present.checkRow row <;> simp [onTable, onPresent, checked] at failed ⊢
    | replace name row =>
      cases checked : present.checkRow row <;> simp [onTable, onPresent, checked] at failed ⊢
    | select name key columns =>
      cases columns with
      | none => simp [onTable, onPresent] at failed
      | some columns =>
        cases checked : present.checkColumns columns <;>
          simp [onTable, onPresent, checked] at failed ⊢
    | _ => simp [onTable, onPresent] at failed

theorem atomic_perform (call : StoreCall) : call.perform.Atomic := by
  intro keyspace later e failed
  rcases call.perform_onTable keyspace with ⟨result, state⟩
  rcases Prod.mk.inj failed with ⟨error, rfl⟩
  rw [state, onTable_of_error (result.symm.trans error), keyspace.withTable_self]

/-- Looking at rows or counting them changes nothing. -/
theorem onTable_select (name key : String) (columns : Option (List String))
    (slot : Option Table) : ((select name key columns).onTable slot).2 = slot := by
  cases slot with
  | none => rfl
  | some present =>
    cases columns with
    | none => rfl
    | some columns =>
      cases checked : present.checkColumns columns <;> simp [onTable, onPresent, checked]

end StoreCall

namespace Keyspace

theorem atomic_truncate (name : String) : (truncate name).Atomic :=
  Action.atomic_of_bind_pure (StoreCall.truncate name).atomic_perform

theorem atomic_upsert (name : String) (row : Row) : (upsert name row).Atomic :=
  Action.atomic_of_bind_pure (StoreCall.upsert name row).atomic_perform

theorem atomic_replace (name : String) (row : Row) : (replace name row).Atomic :=
  Action.atomic_of_bind_pure (StoreCall.replace name row).atomic_perform

theorem keeps_select (name key : String) (columns : Option (List String)) :
    (select name key columns).Keeps := by
  intro keyspace
  have performed := ((StoreCall.select name key columns).perform_onTable keyspace).2
  rw [StoreCall.perform, Action.run_bind_pure, StoreCall.onTable_select,
    StoreCall.table, withTable_self] at performed
  exact performed

end Keyspace

/-! ## Calls on a repository -/

namespace Repository

variable {κ : Type} [FieldFamily κ] {α : Type} (repository : Repository κ)
  (entity : Entity κ α)

/-- Preparing fails only where tables are not created, and then before anything is removed. -/
theorem atomic_prepare : (repository.prepare entity).Atomic := by
  by_cases creates : repository.settings.createTables = true
  · intro keyspace later e failed
    rw [effect_prepare creates] at failed
    simp at failed
  · have truncating : (onKeyspace (Keyspace.truncate entity.layout.name)).Atomic :=
      (Keyspace.atomic_truncate _).mapError _
    rw [prepare, if_neg creates]
    split
    next => exact truncating
    next => exact (Action.keeps_pure ()).atomic

/-- Saves the row that is written in some way, where the writer may as well go on behind a call that
failed. -/
def saveWith (message : String) (store : String → Row → StoreAction Unit) (entity : Entity κ α)
    (value : α) (write : Action Row MappingError Unit) : RepositoryAction Unit := do
  let row ← Action.ofReport (do
    let (_, row) ← Action.inside (∅ : Row) write
    pure row)
  logSaving message entity value row
  onKeyspace (store entity.layout.name row)

theorem insert_eq_saveWith (value : α) :
    repository.insert entity value =
      saveWith "insert" Keyspace.upsert entity value
        (WriteCall.performAll repository.registry (entity.writes value)) := rfl

theorem update_eq_saveWith (value : α) :
    repository.update entity value =
      saveWith "update" Keyspace.replace entity value
        (WriteCall.performAll repository.registry (entity.writes value)) := rfl

/-- However the row is written, saving is atomic if storing is. -/
theorem atomic_saveWith (message : String) {store : String → Row → StoreAction Unit}
    (atomic : ∀ name row, (store name row).Atomic) (value : α)
    (write : Action Row MappingError Unit) :
    (saveWith message store entity value write).Atomic := by
  refine (Action.keeps_ofReport _).bind_atomic fun row => ?_
  have noted : (logSaving message entity value row).Keeps := fun _ => rfl
  exact noted.bind_atomic fun _ => (atomic entity.layout.name row).mapError _

theorem atomic_insert (value : α) : (repository.insert entity value).Atomic := by
  rw [insert_eq_saveWith]
  exact atomic_saveWith entity "insert" Keyspace.atomic_upsert value _

theorem atomic_update (value : α) : (repository.update entity value).Atomic := by
  rw [update_eq_saveWith]
  exact atomic_saveWith entity "update" Keyspace.atomic_replace value _

theorem keeps_load (row : Option Row) : (repository.load entity row).Keeps := by
  cases row with
  | none => exact Action.keeps_pure none
  | some row => exact (Action.keeps_ofReport _).bind fun value => Action.keeps_pure (some value)

theorem keeps_selectOne (key : String) : (repository.selectOne entity key).Keeps :=
  ((Keyspace.keeps_select _ key none).mapError _).bind (repository.keeps_load entity)

theorem keeps_selectOneColumns (key : String) (columns : List String) :
    (repository.selectOneColumns entity key columns).Keeps :=
  ((Keyspace.keeps_select _ key (some columns)).mapError _).bind (repository.keeps_load entity)

end Repository

/-! ## Runs of calls -/

/-- A call on a repository, or past it on its keyspace. -/
inductive RepositoryCall (κ : Type) [FieldFamily κ] (α : Type) where
  | store (call : StoreCall)
  | prepare (entity : Entity κ α)
  | insert (entity : Entity κ α) (value : α)
  | update (entity : Entity κ α) (value : α)
  | selectOne (entity : Entity κ α) (key : String)
  | selectOneColumns (entity : Entity κ α) (key : String) (columns : List String)

/-- The answer to a call that succeeds. -/
inductive RepositoryAnswer (α : Type) where
  | stored (answer : StoreAnswer)
  | done
  | found (value : Option α)

namespace RepositoryCall

open Repository

variable {κ : Type} [FieldFamily κ] {α : Type} (repository : Repository κ)

/-- Performs a call. -/
def perform : RepositoryCall κ α → RepositoryAction (RepositoryAnswer α)
  | store call => do
    let answer ← onKeyspace call.perform
    pure (.stored answer)
  | prepare entity => do
    repository.prepare entity
    pure .done
  | insert entity value => do
    repository.insert entity value
    pure .done
  | update entity value => do
    repository.update entity value
    pure .done
  | selectOne entity key => do
    let value ← repository.selectOne entity key
    pure (.found value)
  | selectOneColumns entity key columns => do
    let value ← repository.selectOneColumns entity key columns
    pure (.found value)

/-- Performs calls one after another, each on what the one before left, and collects the answers
and failures. -/
def performEach : List (RepositoryCall κ α) → Keyspace →
    List (Except MappingError (RepositoryAnswer α)) × Keyspace
  | [], keyspace => ([], keyspace)
  | call :: calls, keyspace =>
    let outcome := (call.perform repository).run keyspace
    let (answers, last) := performEach calls outcome.state
    (outcome.result :: answers, last)

/-- Every call on a repository leaves the keyspace as it was if it fails. -/
theorem atomic_perform (call : RepositoryCall κ α) : (call.perform repository).Atomic := by
  cases call with
  | store call => exact (call.atomic_perform.mapError _).bind_pure _
  | prepare entity => exact (repository.atomic_prepare entity).bind_pure _
  | insert entity value => exact (repository.atomic_insert entity value).bind_pure _
  | update entity value => exact (repository.atomic_update entity value).bind_pure _
  | selectOne entity key => exact (repository.keeps_selectOne entity key).atomic.bind_pure _
  | selectOneColumns entity key columns =>
    exact (repository.keeps_selectOneColumns entity key columns).atomic.bind_pure _

theorem performEach_append (before after : List (RepositoryCall κ α)) (keyspace : Keyspace) :
    performEach repository (before ++ after) keyspace =
      ((performEach repository before keyspace).1 ++
          (performEach repository after (performEach repository before keyspace).2).1,
        (performEach repository after (performEach repository before keyspace).2).2) := by
  induction before generalizing keyspace with
  | nil => rfl
  | cons call before ih => simp [performEach, ih]

theorem length_performEach (calls : List (RepositoryCall κ α)) (keyspace : Keyspace) :
    (performEach repository calls keyspace).1.length = calls.length := by
  induction calls generalizing keyspace with
  | nil => rfl
  | cons call calls ih => simp [performEach, ih]

/-- In a run of calls, a call that fails might as well not have been made: the other calls answer
what they would have answered without it, and the same keyspace is left. -/
theorem performEach_without_failed {before : List (RepositoryCall κ α)}
    {call : RepositoryCall κ α} {start : Keyspace} {error : MappingError}
    (failed : ((call.perform repository).run (performEach repository before start).2).result =
      .error error)
    (after : List (RepositoryCall κ α)) :
    ∃ answers answers' last, answers.length = before.length ∧
      performEach repository (before ++ after) start = (answers ++ answers', last) ∧
      performEach repository (before ++ call :: after) start =
        (answers ++ .error error :: answers', last) := by
  have length : (performEach repository before start).1.length = before.length :=
    length_performEach repository before start
  have kept : ((call.perform repository).run (performEach repository before start).2).state =
      (performEach repository before start).2 :=
    atomic_perform repository call _ _ error (Prod.ext failed rfl)
  refine ⟨_, _, _, length, performEach_append repository before after start, ?_⟩
  rw [performEach_append, performEach, failed, kept]

/-- A call that fails leaves the keyspace as it was. So does saving an entity if it fails, in
whatever way its row is written; and a run of calls that fails in between goes on as if the call
that failed had not been made. -/
theorem failure_leaves_no_trace :
    (∀ (call : RepositoryCall κ α) (keyspace later : Keyspace) (error : MappingError),
      (call.perform repository).effect keyspace = (.error error, later) → later = keyspace) ∧
    (∀ (entity : Entity κ α) (value : α) (write : Action Row MappingError Unit)
      (message : String),
      (saveWith message Keyspace.upsert entity value write).Atomic ∧
        (saveWith message Keyspace.replace entity value write).Atomic) ∧
    ∀ (before after : List (RepositoryCall κ α)) (call : RepositoryCall κ α)
      (start : Keyspace) (error : MappingError),
      ((call.perform repository).run (performEach repository before start).2).result =
          .error error →
        ∃ answers answers' last, answers.length = before.length ∧
          performEach repository (before ++ after) start = (answers ++ answers', last) ∧
          performEach repository (before ++ call :: after) start =
            (answers ++ .error error :: answers', last) := by
  refine ⟨?_, ?_, ?_⟩
  · intro call keyspace later error failed
    exact atomic_perform repository call keyspace later error failed
  · intro entity value write message
    exact ⟨atomic_saveWith entity message Keyspace.atomic_upsert value write,
      atomic_saveWith entity message Keyspace.atomic_replace value write⟩
  · intro before after call start error failed
    exact performEach_without_failed repository failed after

/-- A glitch whose key is overwritten by a list is refused behind two good columns, and no row of it
is counted afterwards. -/
theorem failure_leaves_no_trace_list_key :
    let repository : Repository FieldType := ⟨⟨[], {}⟩, {}⟩
    let start : Keyspace := { name := "kcc", tables := ∅ }
    let prepare : RepositoryCall FieldType Glitch := .prepare Glitch.entity
    let insert : RepositoryCall FieldType Glitch := .insert Glitch.entity ⟨"a", "list_key"⟩
    let count : RepositoryCall FieldType Glitch := .store (.count "glitch")
    let refused : MappingError := .store (.kindMismatch "glitch" "id" .text .list)
    let ready := (performEach repository [prepare] start).2
    (insert.perform repository).effect ready = (.error refused, ready) ∧
      ∃ answers answers' last, answers.length = 1 ∧
        performEach repository [prepare, count] start = (answers ++ answers', last) ∧
        performEach repository [prepare, insert, count] start =
          (answers ++ .error refused :: answers', last) := by
  intro repository start prepare insert count refused ready
  have failed : ((insert.perform repository).run ready).result = .error refused := by rfl
  obtain ⟨kept, -, run⟩ := failure_leaves_no_trace (α := Glitch) repository
  have same := kept insert ready _ refused (Prod.ext failed rfl)
  exact ⟨Prod.ext failed same, run [prepare] [count] insert start refused failed⟩

end RepositoryCall

end Cellwise

import Cellwise.Catalog.Glitch
import Cellwise.Proofs.Entity.Repository

/-!
# Making the table of an entity ready

Preparing an entity may create its table and may remove the rows of it, as the settings say.

* `Repository.Prepares` says what becomes of the table, or of none, when preparing succeeds.
* `Repository.prepare_touches_own_table` says that preparing fails only where there is nothing to
  empty, that it leaves all other tables alone, and that a second time nothing is left to do.
-/

namespace Cellwise

namespace Repository

open Keyspace

/-- What preparing makes of the table of an entity, or of none. A table that is there keeps its own
layout, whatever layout the entity asks for. -/
inductive Prepares (settings : KeyspaceSettings) (layout : TableLayout) :
    Option Table → Option Table → Prop where
  | keeps (table : Table) (kept : settings.truncateOnSetup = false) :
      Prepares settings layout (some table) (some table)
  | empties (table : Table) (emptied : settings.truncateOnSetup = true) :
      Prepares settings layout (some table) (some { table with rows := ∅ })
  | creates (created : settings.createTables = true) :
      Prepares settings layout none (some { layout, rows := ∅ })
  | skips (uncreated : settings.createTables = false) (kept : settings.truncateOnSetup = false) :
      Prepares settings layout none none

namespace Prepares

variable {settings : KeyspaceSettings} {layout : TableLayout} {before after : Option Table}

theorem of_some (settings : KeyspaceSettings) (layout : TableLayout) (table : Table) :
    Prepares settings layout (some table) (some (preparedTable settings layout (some table))) := by
  cases truncates : settings.truncateOnSetup with
  | false =>
    have kept : Prepares settings layout (some table) (some table) := .keeps table truncates
    simpa [preparedTable, truncates] using kept
  | true =>
    have emptied : Prepares settings layout (some table) (some { table with rows := ∅ }) :=
      .empties table truncates
    simpa [preparedTable, truncates] using emptied

theorem eq_preparedTable {table : Table} (prepares : Prepares settings layout (some table) after) :
    after = some (preparedTable settings layout (some table)) := by
  cases prepares with
  | keeps _ kept => simp [preparedTable, kept]
  | empties _ emptied => simp [preparedTable, emptied]

/-- There is nothing left to do for what has been prepared. -/
theorem again (prepares : Prepares settings layout before after) :
    Prepares settings layout after after := by
  cases prepares with
  | keeps table kept => exact .keeps table kept
  | empties table emptied => exact .empties { table with rows := ∅ } emptied
  | creates created =>
    cases truncates : settings.truncateOnSetup with
    | false => exact .keeps _ truncates
    | true => exact .empties { layout, rows := ∅ } truncates
  | skips uncreated kept => exact .skips uncreated kept

end Prepares

variable {κ : Type} [FieldFamily κ] {α : Type} {repository : Repository κ} {entity : Entity κ α}
  {keyspace later : Keyspace}

/-- A table that is there is prepared, whether missing ones are created or not. -/
theorem effect_prepare_of_some {table : Table}
    (held : keyspace.tables[entity.layout.name]? = some table) :
    (repository.prepare entity).effect keyspace =
      (.ok (), keyspace.withTable entity.layout.name
        (some (preparedTable repository.settings entity.layout (some table)))) := by
  cases creates : repository.settings.createTables with
  | true => rw [effect_prepare creates, held]
  | false =>
    rw [prepare, if_neg (by simp [creates])]
    split
    next truncates =>
      simpa [preparedTable, truncates] using effect_onKeyspace_of_ok (effect_truncate held)
    next kept =>
      have same := keyspace.withTable_of_getElem? held
      simp only [preparedTable, kept, Option.getD_some, Bool.false_eq_true, if_false, same]
      rfl

/-- Preparing succeeds where `Prepares` says what becomes of the table. -/
theorem effect_prepare_of_prepares {slot : Option Table}
    (prepares : Prepares repository.settings entity.layout
      keyspace.tables[entity.layout.name]? slot) :
    (repository.prepare entity).effect keyspace =
      (.ok (), keyspace.withTable entity.layout.name slot) := by
  cases held : keyspace.tables[entity.layout.name]? with
  | some table =>
    rw [held] at prepares
    rw [effect_prepare_of_some held, prepares.eq_preparedTable]
  | none =>
    rw [held] at prepares
    cases prepares with
    | creates created =>
      rw [effect_prepare created, held]
      simp [preparedTable]
    | skips uncreated kept =>
      rw [effect_prepare_of_none held uncreated, if_neg (by simp [kept]),
        keyspace.withTable_of_getElem? held]

/-- A missing table that is to be emptied, but not to be created, is all that can go wrong. -/
theorem prepares_or_missing (settings : KeyspaceSettings) (layout : TableLayout)
    (slot : Option Table) :
    (∃ prepared, Prepares settings layout slot prepared) ∨
      settings.createTables = false ∧ settings.truncateOnSetup = true ∧ slot = none := by
  cases slot with
  | some table => exact .inl ⟨_, .of_some settings layout table⟩
  | none =>
    cases creates : settings.createTables with
    | true => exact .inl ⟨_, .creates creates⟩
    | false =>
      cases truncates : settings.truncateOnSetup with
      | false => exact .inl ⟨none, .skips creates truncates⟩
      | true => exact .inr ⟨rfl, rfl, rfl⟩

theorem effect_prepare_of_missing (uncreated : repository.settings.createTables = false)
    (emptied : repository.settings.truncateOnSetup = true)
    (absent : keyspace.tables[entity.layout.name]? = none) :
    (repository.prepare entity).effect keyspace =
      (.error (.store (.tableNotFound entity.layout.name)), keyspace) := by
  rw [effect_prepare_of_none absent uncreated, if_pos emptied]

/-- What a preparation that succeeds has done to the keyspace. -/
theorem exists_prepares_of_ok
    (ok : (repository.prepare entity).effect keyspace = (.ok (), later)) :
    ∃ slot, Prepares repository.settings entity.layout keyspace.tables[entity.layout.name]? slot ∧
      later = keyspace.withTable entity.layout.name slot := by
  rcases prepares_or_missing repository.settings entity.layout
    keyspace.tables[entity.layout.name]? with ⟨slot, prepares⟩ | ⟨uncreated, emptied, absent⟩
  · rw [effect_prepare_of_prepares prepares] at ok
    exact ⟨slot, prepares, (Prod.mk.inj ok).2.symm⟩
  · rw [effect_prepare_of_missing uncreated emptied absent] at ok
    cases ok

/-- Preparing an entity fails just where its table is missing and is to be emptied without being
created. Where it succeeds, it has prepared the table of the entity and touched nothing else, and
preparing the entity once more succeeds and changes nothing. -/
theorem prepare_touches_own_table (repository : Repository κ) (entity : Entity κ α)
    (keyspace : Keyspace) :
    ((∃ error later, (repository.prepare entity).effect keyspace = (.error error, later)) ↔
      repository.settings.createTables = false ∧ repository.settings.truncateOnSetup = true ∧
        keyspace.tables[entity.layout.name]? = none) ∧
    ∀ later, (repository.prepare entity).effect keyspace = (.ok (), later) →
      later.name = keyspace.name ∧
      (∀ other, other ≠ entity.layout.name → later.tables[other]? = keyspace.tables[other]?) ∧
      Prepares repository.settings entity.layout keyspace.tables[entity.layout.name]?
        later.tables[entity.layout.name]? ∧
      (repository.prepare entity).effect later = (.ok (), later) := by
  refine ⟨⟨?fails, ?missing⟩, ?prepared⟩
  case fails =>
    rintro ⟨error, later, failed⟩
    rcases prepares_or_missing repository.settings entity.layout
      keyspace.tables[entity.layout.name]? with ⟨slot, prepares⟩ | missing
    · rw [effect_prepare_of_prepares prepares] at failed
      cases failed
    · exact missing
  case missing =>
    rintro ⟨uncreated, emptied, absent⟩
    exact ⟨_, _, effect_prepare_of_missing uncreated emptied absent⟩
  case prepared =>
    intro later ok
    obtain ⟨slot, prepares, rfl⟩ := exists_prepares_of_ok ok
    have left := getElem?_tables_withTable_self keyspace entity.layout.name slot
    refine ⟨by simp, ?_, by rwa [left], ?_⟩
    · intro other apart
      rw [getElem?_tables_withTable, if_neg apart.symm]
    · have again := prepares.again
      rw [← left] at again
      rw [effect_prepare_of_prepares again, Keyspace.withTable_self]

/-- A table that calls have left with a row and a layout of its own is emptied, but it keeps that
layout, and the badges are all left. -/
theorem prepare_touches_own_table_other_layout :
    let repository : Repository FieldType := ⟨⟨[], {}⟩, {}⟩
    let layout : TableLayout := { name := "glitch", keyColumn := "no", columns := [⟨"no", .text⟩] }
    let calls : List StoreCall :=
      [.createTable layout, .upsert "glitch" ((∅ : Row).insert "no" (.text "7")),
        .createTable (.ofKey "badge" "id"), .upsert "badge" ((∅ : Row).insert "id" (.text "a"))]
    let start := (StoreCall.performAll calls { name := "kcc", tables := ∅ }).2
    start.tables["glitch"]?.map (·.rows.size) = some 1 ∧
      ∃ later, (repository.prepare Glitch.entity).effect start = (.ok (), later) ∧
        later.tables["glitch"]? = some { layout, rows := ∅ } ∧
        later.tables["badge"]?.map (·.rows.size) = some 1 ∧
        (repository.prepare Glitch.entity).effect later = (.ok (), later) := by
  intro repository layout calls start
  have full : start.tables["glitch"]?.map (·.rows.size) = some 1 := by decide
  have ok : (repository.prepare Glitch.entity).effect start =
      (.ok (), ((repository.prepare Glitch.entity).effect start).2) :=
    Prod.ext (by rw [effect_prepare rfl]) rfl
  obtain ⟨-, prepared⟩ := prepare_touches_own_table repository Glitch.entity start
  obtain ⟨-, others, prepares, again⟩ := prepared _ ok
  obtain ⟨table, held, -⟩ := Option.map_eq_some_iff.1 full
  have own : table.layout = layout := by
    have layouts : start.tables["glitch"]?.map (·.layout) = some layout := by decide
    simpa [held] using layouts
  change Prepares _ _ start.tables["glitch"]? _ at prepares
  rw [held] at prepares
  refine ⟨full, _, ok, ?_, ?_, again⟩
  · rw [← own]
    exact prepares.eq_preparedTable
  · rw [others "badge" (by decide)]
    decide

end Repository

end Cellwise
